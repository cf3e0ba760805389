import Mathlib.Order.Bounds.Basic
import Allotment.Proofs.Policy.Agreement

/-!
# The least sufficient quantity

Where a pool stacks and both sides count sockets, the native policy takes the fewest entitlements
that cover all sockets of the consumer, as far as they are available, and at least one. Of any other
pool it takes one (`quantityFor_least`).

The quantity is reckoned with amounts. `checkedQuantityFor` reckons it in the same steps, of which
each one fails where there is no result among the amounts; none of them ever does
(`checkedQuantityFor_eq`).
-/

namespace Allotment

/-! ## Arithmetic that can fail -/

/-- Why a step has no result among the amounts. -/
inductive ArithmeticFault where
  | divisionByZero
  | overflow
  deriving DecidableEq, Repr

namespace Amount

/-- The amount equal to a whole number, where `clamp` would take the nearest one. -/
def checked (n : Int) : Except ArithmeticFault Amount :=
  match ofInt? n with
  | some a => .ok a
  | none => .error .overflow

def checkedSum (a b : Amount) : Except ArithmeticFault Amount := checked (a.val + b.val)

/-- The quotient rounded towards zero. It is no amount where the least one is divided by `-1`. -/
def checkedQuotient (a b : Amount) : Except ArithmeticFault Amount :=
  if b.val = 0 then .error .divisionByZero else checked (a.val.tdiv b.val)

/-- What the quotient leaves over, with the sign of what is divided. Without a quotient there is
none. -/
def checkedRemainder (a b : Amount) : Except ArithmeticFault Amount := do
  let _ ← a.checkedQuotient b
  checked (a.val.tmod b.val)

theorem checked_eq_ok_iff {n : Int} {a : Amount} : checked n = .ok a ↔ a.val = n := by
  rw [← ofInt?_eq_some_iff, checked]
  cases ofInt? n with
  | none => simp
  | some b => simp

variable {a b : Amount}

/-- Dividing a number that is not negative by a positive one stays below what is divided. -/
theorem exists_checkedQuotient (ha : 0 ≤ a.val) (hb : 0 < b.val) :
    ∃ whole, a.checkedQuotient b = .ok whole ∧ whole.val = a.val / b.val := by
  have hnonneg : 0 ≤ a.val / b.val := Int.ediv_nonneg ha (Int.le_of_lt hb)
  have hle : a.val / b.val ≤ a.val := Int.ediv_le_self b.val ha
  have hgreatest := a.le_greatest
  refine ⟨⟨a.val / b.val, by omega, by omega⟩, ?_, rfl⟩
  rw [checkedQuotient, if_neg (Int.ne_of_gt hb), checked_eq_ok_iff,
    Int.tdiv_eq_ediv_of_nonneg ha]

/-- What is left over is below what was divided by. -/
theorem exists_checkedRemainder (ha : 0 ≤ a.val) (hb : 0 < b.val) :
    ∃ rest, a.checkedRemainder b = .ok rest ∧ rest.val = a.val % b.val := by
  obtain ⟨whole, hwhole, -⟩ := exists_checkedQuotient ha hb
  have hnonneg := Int.emod_nonneg a.val (Int.ne_of_gt hb)
  have hlt := Int.emod_lt_of_pos a.val hb
  have hgreatest := b.le_greatest
  refine ⟨⟨a.val % b.val, by omega, by omega⟩, ?_, rfl⟩
  rw [checkedRemainder, hwhole]
  exact checked_eq_ok_iff.mpr (Int.tmod_eq_emod_of_nonneg ha).symm

end Amount

/-! ## Texts that are read -/

theorem PoolView.isSome_productAttribute?_iff {pool : PoolView} {name : String} :
    (pool.productAttribute? name).isSome ↔
      ∃ text, pool.productAttributes.get? name = some text ∧ Text.trim text ≠ "" := by
  rw [Option.isSome_iff_exists]
  simp only [productAttribute?, Option.bind_eq_some_iff, Text.nonBlank?,
    Option.ite_none_left_eq_some, Option.some.injEq]
  constructor
  · rintro ⟨_, text, htext, hfilled, -⟩
    exact ⟨text, htext, hfilled⟩
  · rintro ⟨text, htext, hfilled⟩
    exact ⟨_, text, htext, hfilled, rfl⟩

/-- A blank text, which counts as absent, would not be read as a number anyway. -/
theorem Native.nonBlank?_bind_readPositiveAmount? (text : String) :
    (Text.nonBlank? text).bind readPositiveAmount? = readPositiveAmount? (Text.trim text) := by
  unfold Text.nonBlank?
  split
  · rename_i hblank
    rw [hblank]
    rfl
  · rw [Option.bind_some]

theorem Native.get?_bind_readPositiveAmount?_iff {entries : Table String} {name : String}
    {n : Amount} :
    ((entries.get? name).bind fun text => readPositiveAmount? (Text.trim text)) = some n ↔
      (∃ text, entries.get? name = some text ∧ Amount.read? (Text.trim text) = some n) ∧
        0 < n.val := by
  simp only [Option.bind_eq_some_iff, readPositiveAmount?_eq_some_iff, Amount.read?_eq_some_iff]
  constructor
  · rintro ⟨text, htext, hread, hpos⟩
    exact ⟨⟨text, htext, hread⟩, hpos⟩
  · rintro ⟨⟨text, htext, hread⟩, hpos⟩
    exact ⟨text, htext, hread, hpos⟩

namespace Native

/-! ## Rounding up -/

section Rounding

variable {sockets present : Amount}

/-- With one entitlement less some sockets are not covered. -/
theorem mul_pred_socketQuantity_lt (hsockets : 0 < sockets.val) (hpresent : 0 < present.val) :
    ((socketQuantity sockets present).val - 1) * sockets.val < present.val := by
  have hwhole : present.val / sockets.val * sockets.val + present.val % sockets.val =
      present.val := Int.ediv_mul_add_emod present.val sockets.val
  have hrest := Int.emod_nonneg present.val (Int.ne_of_gt hsockets)
  rw [val_socketQuantity hsockets hpresent]
  split
  · rename_i hexact
    rw [Int.add_zero, Int.sub_mul, Int.one_mul]
    omega
  · rw [Int.add_sub_cancel]
    omega

theorem socketQuantity_le_iff (hsockets : 0 < sockets.val) (hpresent : 0 < present.val) {n : Int} :
    (socketQuantity sockets present).val ≤ n ↔ present.val ≤ n * sockets.val := by
  constructor
  · intro hle
    calc present.val
      _ ≤ sockets.val * (socketQuantity sockets present).val :=
        le_mul_socketQuantity hsockets hpresent
      _ = (socketQuantity sockets present).val * sockets.val := Int.mul_comm _ _
      _ ≤ n * sockets.val := Int.mul_le_mul_of_nonneg_right hle (Int.le_of_lt hsockets)
  · intro hcovered
    have hless := Int.lt_of_lt_of_le (mul_pred_socketQuantity_lt hsockets hpresent) hcovered
    have hpred := Int.lt_of_mul_lt_mul_right hless (Int.le_of_lt hsockets)
    omega

/-- The numbers of entitlements that cover all sockets are those from the quantity on. -/
theorem isLeast_socketQuantity (hsockets : 0 < sockets.val) (hpresent : 0 < present.val) :
    IsLeast {n : Int | present.val ≤ n * sockets.val} (socketQuantity sockets present).val :=
  ⟨(socketQuantity_le_iff hsockets hpresent).mp (Int.le_refl _),
    fun _ hcovered => (socketQuantity_le_iff hsockets hpresent).mpr hcovered⟩

/-- The entitlements that cover all sockets of the consumer, with every step checked. -/
def checkedSocketQuantity (sockets present : Amount) : Except ArithmeticFault Amount := do
  let whole ← present.checkedQuotient sockets
  let rest ← present.checkedRemainder sockets
  whole.checkedSum (if rest.val = 0 then 0 else 1)

theorem checkedSocketQuantity_eq (hsockets : 0 < sockets.val) (hpresent : 0 < present.val) :
    checkedSocketQuantity sockets present = .ok (socketQuantity sockets present) := by
  obtain ⟨whole, hwhole, hwholeVal⟩ :=
    Amount.exists_checkedQuotient (Int.le_of_lt hpresent) hsockets
  obtain ⟨rest, hrest, hrestVal⟩ :=
    Amount.exists_checkedRemainder (Int.le_of_lt hpresent) hsockets
  have hsum : whole.checkedSum (if rest.val = 0 then 0 else 1) =
      .ok (socketQuantity sockets present) := by
    rw [Amount.checkedSum, Amount.checked_eq_ok_iff, val_socketQuantity hsockets hpresent,
      hwholeVal, hrestVal, apply_ite Amount.val]
    rfl
  rw [checkedSocketQuantity, hwhole, hrest]
  exact hsum

/-- The division comes first. Adding to what is divided would round up, too, but not in range. -/
example : checkedSocketQuantity 2 9223372036854775807 = .ok 4611686018427387904 ∧
    Amount.checkedSum 9223372036854775807 1 = .error .overflow := ⟨rfl, rfl⟩

end Rounding

/-! ## Where sockets are counted -/

/-- The pool stacks, each of its entitlements is for `sockets` sockets, and the consumer reports
`present` sockets: both are positive amounts, with or without blanks around them. -/
structure CountsSockets (consumer : ConsumerView) (pool : PoolView) (sockets present : Amount) :
    Prop where
  stacked : ∃ text, pool.productAttributes.get? Attribute.stackingId = some text ∧
    Text.trim text ≠ ""
  offered : ∃ text, pool.productAttributes.get? Attribute.sockets = some text ∧
    Amount.read? (Text.trim text) = some sockets
  reported : ∃ text, consumer.facts.get? Fact.cpuSockets = some text ∧
    Amount.read? (Text.trim text) = some present
  sockets_pos : 0 < sockets.val
  present_pos : 0 < present.val

variable {consumer : ConsumerView} {pool : PoolView} {sockets present : Amount}

theorem countsSockets_iff :
    CountsSockets consumer pool sockets present ↔
      (pool.productAttribute? Attribute.stackingId).isSome ∧
        (pool.productAttribute? Attribute.sockets).bind readPositiveAmount? = some sockets ∧
        ((consumer.fact? Fact.cpuSockets).bind fun fact => readPositiveAmount? (Text.trim fact)) =
          some present := by
  rw [PoolView.isSome_productAttribute?_iff, PoolView.productAttribute?, Option.bind_assoc,
    funext nonBlank?_bind_readPositiveAmount?, get?_bind_readPositiveAmount?_iff,
    ConsumerView.fact?, get?_bind_readPositiveAmount?_iff]
  constructor
  · rintro ⟨hstacked, hoffered, hreported, hsockets, hpresent⟩
    exact ⟨hstacked, ⟨hoffered, hsockets⟩, hreported, hpresent⟩
  · rintro ⟨hstacked, ⟨hoffered, hsockets⟩, hreported, hpresent⟩
    exact ⟨hstacked, hoffered, hreported, hsockets, hpresent⟩

theorem neededQuantity_of_counts (h : CountsSockets consumer pool sockets present) :
    neededQuantity consumer pool = socketQuantity sockets present := by
  obtain ⟨hstacked, hoffered, hreported⟩ := countsSockets_iff.mp h
  obtain ⟨stack, hstack⟩ := Option.isSome_iff_exists.mp hstacked
  rw [neededQuantity, hstack, hoffered, hreported]

theorem neededQuantity_of_not_counts
    (h : ¬ ∃ sockets present, CountsSockets consumer pool sockets present) :
    neededQuantity consumer pool = 1 := by
  unfold neededQuantity
  split
  · rename_i sockets present hstack hoffered hreported
    exact absurd ⟨sockets, present, countsSockets_iff.mpr
      ⟨Option.isSome_of_eq_some hstack, hoffered, hreported⟩⟩ h
  · rfl

/-! ## The reckoning with checks -/

/-- The entitlements that the consumer needs, with every step checked. -/
def checkedNeededQuantity (consumer : ConsumerView) (pool : PoolView) :
    Except ArithmeticFault Amount :=
  match pool.productAttribute? Attribute.stackingId,
      (pool.productAttribute? Attribute.sockets).bind readPositiveAmount?,
      (consumer.fact? Fact.cpuSockets).bind fun fact => readPositiveAmount? (Text.trim fact) with
  | some _, some sockets, some present => checkedSocketQuantity sockets present
  | _, _, _ => .ok 1

/-- What is needed, as far as it is available, and at least one, with every step checked. What is
available needs no check: as a difference it stops at the ends of the range. -/
def checkedQuantityFor (consumer : ConsumerView) (pool : PoolView) :
    Except ArithmeticFault Amount := do
  let needed ← checkedNeededQuantity consumer pool
  match pool.available? with
  | some available => Amount.checked (max (min needed.val available.val) 1)
  | none => return needed

theorem checkedNeededQuantity_eq (consumer : ConsumerView) (pool : PoolView) :
    checkedNeededQuantity consumer pool = .ok (neededQuantity consumer pool) := by
  unfold checkedNeededQuantity
  split
  · rename_i sockets present hstack hoffered hreported
    have hcounts : CountsSockets consumer pool sockets present :=
      countsSockets_iff.mpr ⟨Option.isSome_of_eq_some hstack, hoffered, hreported⟩
    rw [neededQuantity_of_counts hcounts]
    exact checkedSocketQuantity_eq hcounts.sockets_pos hcounts.present_pos
  · rename_i huncounted
    rw [neededQuantity_of_not_counts]
    rintro ⟨sockets, present, hcounts⟩
    obtain ⟨hstacked, hoffered, hreported⟩ := countsSockets_iff.mp hcounts
    obtain ⟨stack, hstack⟩ := Option.isSome_iff_exists.mp hstacked
    exact huncounted stack sockets present hstack hoffered hreported

/-- No step leaves the range of the amounts or divides by zero, whatever is written in the facts and
attributes and however much of the pool is there or consumed. -/
theorem checkedQuantityFor_eq (consumer : ConsumerView) (pool : PoolView) :
    checkedQuantityFor consumer pool = .ok (quantityFor consumer pool) := by
  have hvalue := val_quantityFor consumer pool
  have hneeded := one_le_neededQuantity consumer pool
  rw [checkedQuantityFor, checkedNeededQuantity_eq]
  cases havailable : pool.available? with
  | none =>
      rw [havailable] at hvalue
      exact congrArg Except.ok (Amount.ext hvalue.symm)
  | some available =>
      refine Amount.checked_eq_ok_iff.mpr ?_
      simp only [havailable, upTo] at hvalue
      omega

/-- Where sockets are counted, the quantity is the least that covers them all, over the whole
numbers and up to what is available; elsewhere it is one. It is reckoned without a fault, and it is
never less than one and never more than what is available, if anything is. -/
theorem quantityFor_least (consumer : ConsumerView) (pool : PoolView) :
    (∀ sockets present, CountsSockets consumer pool sockets present →
      ∃ n, IsLeast {m : Int | present.val ≤ m * sockets.val} n ∧
        (quantityFor consumer pool).val = upTo pool.available? n) ∧
    ((¬ ∃ sockets present, CountsSockets consumer pool sockets present) →
      (quantityFor consumer pool).val = 1) ∧
    checkedQuantityFor consumer pool = .ok (quantityFor consumer pool) ∧
    1 ≤ (quantityFor consumer pool).val ∧
    ∀ available, pool.available? = some available → 1 ≤ available.val →
      (quantityFor consumer pool).val ≤ available.val := by
  refine ⟨fun sockets present hcounts => ?_, fun huncounted => ?_,
    checkedQuantityFor_eq consumer pool, one_le_quantityFor consumer pool,
    fun available havailable hone => ?_⟩
  · refine ⟨_, isLeast_socketQuantity hcounts.sockets_pos hcounts.present_pos, ?_⟩
    rw [val_quantityFor, neededQuantity_of_counts hcounts]
  · rw [val_quantityFor, neededQuantity_of_not_counts huncounted]
    exact upTo_one pool.available?
  · refine quantityFor_le havailable fun hzero => ?_
    rw [hzero] at hone
    exact absurd hone (by decide)

/-- As many sockets as an amount can be, of which each entitlement is for two. -/
theorem quantityFor_least_mostSockets :
    let consumer := ConsumerView.of (withSockets " +9223372036854775807 ") none
    (∀ quantity, CountsSockets consumer (.of (stackFor "2" quantity)) 2 9223372036854775807) ∧
      (quantityFor consumer (.of (stackFor "2" (-1)))).val = 4611686018427387904 ∧
      (quantityFor consumer (.of (stackFor "2" 4))).val = 4 := by
  intro consumer
  have hcounts (quantity : Amount) :
      CountsSockets consumer (.of (stackFor "2" quantity)) 2 9223372036854775807 :=
    ⟨⟨"stack", rfl, by decide⟩, ⟨"2", rfl, by decide⟩, ⟨" +9223372036854775807 ", rfl, by decide⟩,
      by decide, by decide⟩
  have hhalf : IsLeast {m : Int | (9223372036854775807 : Amount).val ≤ m * (2 : Amount).val}
      4611686018427387904 := by
    constructor
    · show (9223372036854775807 : Int) ≤ 4611686018427387904 * 2
      decide
    · intro m (hcovered : (9223372036854775807 : Int) ≤ m * 2)
      omega
  have hunlimited : (PoolView.of (stackFor "2" (-1))).available? = none := by decide
  have hlimited : (PoolView.of (stackFor "2" 4)).available? = some 4 := by decide
  refine ⟨hcounts, ?_, ?_⟩
  · obtain ⟨n, hleast, hvalue⟩ :=
      (quantityFor_least consumer (.of (stackFor "2" (-1)))).1 _ _ (hcounts (-1))
    rw [hvalue, hunlimited, hleast.unique hhalf]
    rfl
  · obtain ⟨n, hleast, hvalue⟩ :=
      (quantityFor_least consumer (.of (stackFor "2" 4))).1 _ _ (hcounts 4)
    rw [hvalue, hlimited, hleast.unique hhalf]
    rfl

end Native

end Allotment
