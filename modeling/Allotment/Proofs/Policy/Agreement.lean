import Allotment.Proofs.Native.Coverage
import Allotment.Proofs.Native.Quantity
import Allotment.Proofs.Validation.Quantities

/-!
# Where the policy and the validation agree

The native policy decides on views of a consumer and a pool, the validation on the two themselves.
The validation objects to an architecture or a quantity exactly where the policy would
(`reports_iff_of_views`). The policy takes enough of a pool for the consumer's sockets, unless there
are more of them than an amount can hold: such a number is read by the validation and not by the
policy (`reports_sockets_of_quantityFor_iff`).
-/

namespace Allotment

namespace Request

/-- Whoever asks, and whatever the two sides write as architectures and quantities, the validation
reports what the policy sees in the views. -/
theorem reports_iff_of_views (consumer : Consumer) (pool : Pool) (override : Option String)
    (quantity : UInt32) (hquantity : 1 ≤ quantity) (caller : Caller) :
    let verdict := validate ⟨consumer, pool, quantity⟩ caller
    (verdict.Reports .architectureMismatch ↔
      consumer.isManifest = false ∧
        Native.architectureMatches (.of consumer override) (.of pool) "," = false) ∧
    (verdict.Reports .quantityAvailable ↔
      ∃ available, (PoolView.of pool).available? = some available ∧
        available.val < quantity.toNat) := by
  intro verdict
  constructor
  · have harchitecture : check ⟨consumer, pool, quantity⟩ .architectureMismatch = none ↔ _ :=
      checkArchitecture_eq_none_iff override
    rw [reports_iff, ne_eq, harchitecture, not_or, Bool.not_eq_true, Bool.not_eq_true]
    rfl
  · have hleft : check ⟨consumer, pool, quantity⟩ .quantityAvailable = none ↔ _ :=
      checkQuantity_eq_none_iff (UInt32.lt_of_lt_of_le UInt32.zero_lt_one hquantity)
    rw [reports_iff, ne_eq, hleft]
    simp only [not_forall, exists_prop, Int.not_le]

/-- A consumer whose architecture is written with a blank and in capitals. -/
def onMainframe : Consumer :=
  ⟨"c", .system, .ofList [(Fact.architecture, "S390X ")], .empty, none⟩

/-- A pool for other architectures, of which more has been consumed than there was. -/
def overdrawn : Pool :=
  { Native.yearly "overdrawn" 3 ["web"] with
    consumed := 5
    productAttributes := .ofList [(Attribute.architecture, " ppc64, x86_64")] }

theorem reports_iff_of_views_overdrawn :
    (1 : UInt32) ≤ 1 ∧
      (validate ⟨onMainframe, overdrawn, 1⟩ .listPools).Reports .architectureMismatch ∧
      (validate ⟨onMainframe, overdrawn, 1⟩ .listPools).Reports .quantityAvailable := by
  have hone : (1 : UInt32) ≤ 1 := by decide
  obtain ⟨harchitecture, havailable⟩ :=
    reports_iff_of_views onMainframe overdrawn none 1 hone .listPools
  exact ⟨hone, harchitecture.mpr (by decide), havailable.mpr ⟨0, by decide, by decide⟩⟩

end Request

/-! ## Sockets -/

theorem Pool.sockets?_range {pool : Pool} {n : Nat} (h : pool.sockets? = some n) :
    0 < n ∧ n < UInt64.size := by
  obtain ⟨text, -, hread⟩ := Option.bind_eq_some_iff.mp h
  exact (readPositive?_eq_some_iff.mp hread).2

theorem Consumer.sockets?_range {consumer : Consumer} {n : Nat} (h : consumer.sockets? = some n) :
    0 < n ∧ n < UInt64.size := by
  obtain ⟨text, -, hread⟩ := Option.bind_eq_some_iff.mp h
  exact (readPositive?_eq_some_iff.mp hread).2

namespace Native

variable {consumer : Consumer} {pool : Pool} {override : Option String}

theorem sockets?_pool : ((PoolView.of pool).productAttribute? Attribute.sockets).bind
    readPositiveAmount? = pool.sockets?.bind fun n => Amount.ofInt? n := by
  rw [Pool.sockets?, Option.bind_assoc, PoolView.productAttribute?_of]
  refine Option.bind_congr fun text htext => ?_
  rw [← readPositiveAmount?_trim, Pool.trim_productAttribute? htext]

theorem sockets?_consumer : (((ConsumerView.of consumer override).fact? Fact.cpuSockets).bind
    fun fact => readPositiveAmount? (Text.trim fact)) =
      consumer.sockets?.bind fun n => Amount.ofInt? n := by
  rw [Consumer.sockets?, Option.bind_assoc, ConsumerView.fact?_of]
  exact Option.bind_congr fun text _ => readPositiveAmount?_trim text

/-- Where both numbers of sockets are amounts, the policy takes of a stack what they need. -/
theorem neededQuantity_of_amounts (hstack : pool.stackingId?.isSome) {sockets present : Nat}
    (hsockets : pool.sockets? = some sockets) (hpresent : consumer.sockets? = some present)
    {each all : Amount} (heach : each.val = sockets) (hall : all.val = present) :
    neededQuantity (.of consumer override) (.of pool) = socketQuantity each all := by
  obtain ⟨stack, hstack⟩ := Option.isSome_iff_exists.mp hstack
  rw [Pool.stackingId?] at hstack
  rw [neededQuantity, PoolView.productAttribute?_of, sockets?_pool, sockets?_consumer, hstack,
    hsockets, hpresent, Option.bind_some, Option.bind_some,
    Amount.ofInt?_eq_some_iff.mpr heach, Amount.ofInt?_eq_some_iff.mpr hall]

/-- Where one of them is not, the policy takes one. -/
theorem neededQuantity_eq_one
    (h : (pool.sockets?.bind fun n => Amount.ofInt? n) = none ∨
      (consumer.sockets?.bind fun n => Amount.ofInt? n) = none) :
    neededQuantity (.of consumer override) (.of pool) = 1 := by
  rw [neededQuantity, sockets?_pool, sockets?_consumer]
  split
  · rename_i sockets present _ hsockets hpresent
    rcases h with h | h
    · rw [h] at hsockets
      cases hsockets
    · rw [h] at hpresent
      cases hpresent
  · rfl

/-- What the policy needs of a stack covers the sockets that are present exactly if their number is
an amount, or one entitlement is enough. -/
theorem le_coveredSockets_iff {request : Request} (hstack : request.pool.stackingId?.isSome)
    (hneeded : (neededQuantity (.of request.consumer override) (.of request.pool)).val =
      request.quantity.toNat)
    {sockets present : Nat} (hsockets : request.pool.sockets? = some sockets)
    (hpresent : request.consumer.sockets? = some present) :
    present ≤ request.coveredSockets sockets ↔
      present ≤ 9223372036854775807 ∨ present ≤ sockets := by
  have hcovered : request.coveredSockets sockets =
      min (sockets * request.quantity.toNat) 18446744073709551615 := by
    obtain ⟨stack, hstack⟩ := Option.isSome_iff_exists.mp hstack
    rw [Request.coveredSockets, hstack]
    rfl
  have hsize : UInt64.size = 18446744073709551616 := rfl
  have hsocketsRange := Pool.sockets?_range hsockets
  have hpresentRange := Consumer.sockets?_range hpresent
  -- The policy divides only where it reads both numbers; else it takes one entitlement.
  by_cases hamounts : sockets ≤ 9223372036854775807 ∧ present ≤ 9223372036854775807
  · obtain ⟨each, heach⟩ : ∃ a : Amount, a.val = sockets := ⟨⟨sockets, by omega, by omega⟩, rfl⟩
    obtain ⟨all, hall⟩ : ∃ a : Amount, a.val = present := ⟨⟨present, by omega, by omega⟩, rfl⟩
    have hcover : all.val ≤ each.val * (socketQuantity each all).val :=
      le_mul_socketQuantity (by omega) (by omega)
    rw [← neededQuantity_of_amounts hstack hsockets hpresent heach hall, hneeded, heach, hall]
      at hcover
    have hcover : present ≤ sockets * request.quantity.toNat := by exact_mod_cast hcover
    omega
  · have hone : neededQuantity (.of request.consumer override) (.of request.pool) = 1 := by
      apply neededQuantity_eq_one
      rw [hsockets, hpresent]
      rcases not_and_or.mp hamounts with hlarge | hlarge
      · exact .inl (Amount.ofInt?_eq_none_of_lt (by omega))
      · exact .inr (Amount.ofInt?_eq_none_of_lt (by omega))
    have hquantity : request.quantity.toNat = 1 := by
      rw [hone] at hneeded
      exact (Int.ofNat.inj hneeded).symm
    rw [hcovered, hquantity]
    omega

/-- The consumer reports more sockets than an amount can hold, and one entitlement of the pool is
not for all of them. -/
def BeyondAmounts (consumer : Consumer) (pool : Pool) : Prop :=
  ∃ sockets present, pool.sockets? = some sockets ∧ consumer.sockets? = some present ∧
    9223372036854775807 < present ∧ sockets < present

/-- If the pool stacks and has more left than the policy takes of it, the validation is content with
the sockets that are covered, whatever is written on either side and whoever asks, unless there are
more sockets than an amount can hold. -/
theorem reports_sockets_of_quantityFor_iff (consumer : Consumer) (pool : Pool)
    (override : Option String) (quantity : UInt32) (caller : Caller)
    (hkind : consumer.isManifest = false) (hstack : pool.stackingId?.isSome)
    (hquantity : (quantityFor (.of consumer override) (.of pool)).val = quantity.toNat)
    (hspare : ∀ available, (PoolView.of pool).available? = some available →
      (quantity.toNat : Int) < available.val) :
    (Request.validate ⟨consumer, pool, quantity⟩ caller).Reports .socketCoverage ↔
      BeyondAmounts consumer pool := by
  rw [← hquantity] at hspare
  rw [quantityFor_eq_neededQuantity hspare] at hquantity
  have hcontent : Request.check ⟨consumer, pool, quantity⟩ .socketCoverage = none ↔ _ :=
    Request.checkSockets_eq_none_iff
  rw [Request.reports_iff, ne_eq, hcontent, hkind]
  simp only [Bool.false_eq_true, false_or, not_forall, exists_prop, BeyondAmounts]
  refine exists₂_congr fun sockets present => ?_
  refine and_congr_right fun hsockets => and_congr_right fun hpresent => ?_
  rw [le_coveredSockets_iff hstack hquantity hsockets hpresent, not_or, Nat.not_le, Nat.not_le]

/-- A consumer that reports sockets in these words. -/
def withSockets (sockets : String) : Consumer :=
  ⟨"c", .system, .ofList [(Fact.cpuSockets, sockets)], .empty, none⟩

/-- A pool of a stack, of which each entitlement is for so many sockets. -/
def stackFor (sockets : String) (quantity : Amount) : Pool :=
  { yearly "stack" quantity ["web"] with
    productAttributes :=
      .ofList [(Attribute.sockets, sockets), (Attribute.stackingId, "stack")] }

theorem reports_sockets_of_quantityFor_five :
    (quantityFor (.of (withSockets " +5 ") none) (.of (stackFor "2" 10))).val =
        (3 : UInt32).toNat ∧
      ¬ (Request.validate ⟨withSockets " +5 ", stackFor "2" 10, 3⟩ .bind).Reports
        .socketCoverage := by
  have hquantity : (quantityFor (.of (withSockets " +5 ") none) (.of (stackFor "2" 10))).val =
      (3 : UInt32).toNat := by decide
  have hspare : (PoolView.of (stackFor "2" 10)).available? = some 10 := by decide
  have hreports := reports_sockets_of_quantityFor_iff (withSockets " +5 ") (stackFor "2" 10) none
    3 .bind (by decide) (by decide) hquantity (by rw [hspare]; decide)
  refine ⟨hquantity, fun hreported => ?_⟩
  obtain ⟨sockets, present, -, hpresent, hlarge, -⟩ := hreports.mp hreported
  have hfive : (withSockets " +5 ").sockets? = some 5 := by decide
  rw [hfive] at hpresent
  cases hpresent
  omega

/-- Two entitlements cover all sockets, and of two the validation is content. The policy takes one,
as if the consumer counted no sockets. -/
theorem reports_sockets_of_beyond_amounts :
    let consumer := withSockets "9223372036854775808"
    let pool := stackFor "4611686018427387904" (-1)
    consumer.isManifest = false ∧ pool.stackingId?.isSome ∧
      (quantityFor (.of consumer none) (.of pool)).val = (1 : UInt32).toNat ∧
      (PoolView.of pool).available? = none ∧
      (Request.validate ⟨consumer, pool, 1⟩ .bind).Reports .socketCoverage ∧
      ¬ (Request.validate ⟨consumer, pool, 2⟩ .bind).Reports .socketCoverage := by
  simp only [Request.reports_iff]
  decide

end Native

end Allotment
