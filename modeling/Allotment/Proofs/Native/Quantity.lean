import Allotment.Proofs.Policy.Views

/-!
# The quantities of selections

What the native policy takes of a pool is what the consumer needs, up to what is available
(`val_quantityFor`). It asks for at least one unit of every pool, whatever is written in the facts
of the consumer and in the attributes of the pool (`one_le_quantityFor`), and for no more than is
left of a pool that has something left (`quantityFor_le`).
-/

namespace Allotment.Native

theorem pos_of_readPositiveAmount? {text : String} {n : Amount}
    (h : readPositiveAmount? text = some n) : 0 < n.val :=
  (readPositiveAmount?_eq_some_iff.mp h).2

/-- The quotient rounded up stays among the amounts, as it is at most what is divided. -/
theorem val_socketQuantity {sockets present : Amount} (hsockets : 0 < sockets.val)
    (hpresent : 0 < present.val) :
    (socketQuantity sockets present).val =
      present.val / sockets.val + if present.val % sockets.val = 0 then 0 else 1 := by
  have hquotient : 0 ≤ present.val / sockets.val :=
    Int.ediv_nonneg (Int.le_of_lt hpresent) (Int.le_of_lt hsockets)
  have hrest := Int.emod_nonneg present.val (Int.ne_of_gt hsockets)
  have hwhole : sockets.val * (present.val / sockets.val) + present.val % sockets.val =
      present.val := Int.mul_ediv_add_emod present.val sockets.val
  have hle : 1 * (present.val / sockets.val) ≤ sockets.val * (present.val / sockets.val) :=
    Int.mul_le_mul_of_nonneg_right hsockets hquotient
  have hgreatest := present.le_greatest
  apply Amount.val_clamp_of_mem
  · split <;> omega
  · split <;> omega

/-- So many entitlements cover all sockets that are present. -/
theorem le_mul_socketQuantity {sockets present : Amount} (hsockets : 0 < sockets.val)
    (hpresent : 0 < present.val) :
    present.val ≤ sockets.val * (socketQuantity sockets present).val := by
  have hwhole : sockets.val * (present.val / sockets.val) + present.val % sockets.val =
      present.val := Int.mul_ediv_add_emod present.val sockets.val
  have hrest := Int.emod_lt_of_pos present.val hsockets
  rw [val_socketQuantity hsockets hpresent, Int.mul_add]
  split
  · omega
  · rw [Int.mul_one]
    omega

/-- Rounding up does not leave a consumer that has sockets without entitlements. -/
theorem one_le_socketQuantity {sockets present : Amount} (hsockets : 0 < sockets.val)
    (hpresent : 0 < present.val) : 1 ≤ (socketQuantity sockets present).val := by
  have hcovered := le_mul_socketQuantity hsockets hpresent
  exact Int.pos_of_mul_pos_right (Int.lt_of_lt_of_le hpresent hcovered) hsockets

theorem one_le_neededQuantity (consumer : ConsumerView) (pool : PoolView) :
    1 ≤ (neededQuantity consumer pool).val := by
  unfold neededQuantity
  split
  · rename_i sockets present _ hsockets hpresent
    obtain ⟨text, -, hread⟩ := Option.bind_eq_some_iff.mp hsockets
    obtain ⟨fact, -, hfact⟩ := Option.bind_eq_some_iff.mp hpresent
    exact one_le_socketQuantity (pos_of_readPositiveAmount? hread)
      (pos_of_readPositiveAmount? hfact)
  · exact Int.le_refl 1

/-- A number, but no more than is available, and where nothing is available no more than one. -/
def upTo (available : Option Amount) (n : Int) : Int :=
  match available with
  | some available => min n (max 1 available.val)
  | none => n

theorem one_le_upTo {n : Int} (h : 1 ≤ n) (available : Option Amount) : 1 ≤ upTo available n := by
  cases available with
  | none => exact h
  | some available =>
      simp only [upTo]
      omega

theorem upTo_one (available : Option Amount) : upTo available 1 = 1 := by
  cases available with
  | none => rfl
  | some available =>
      simp only [upTo]
      omega

variable {consumer : ConsumerView} {pool : PoolView}

theorem val_quantityFor (consumer : ConsumerView) (pool : PoolView) :
    (quantityFor consumer pool).val =
      upTo pool.available? (neededQuantity consumer pool).val := by
  have hneeded := one_le_neededQuantity consumer pool
  have hgreatest := (neededQuantity consumer pool).le_greatest
  cases havailable : pool.available? with
  | none => simp only [quantityFor, havailable, upTo]
  | some available =>
      simp only [quantityFor, havailable, upTo]
      rw [Amount.val_clamp_of_mem (by omega) (by omega)]
      omega

theorem one_le_quantityFor (consumer : ConsumerView) (pool : PoolView) :
    1 ≤ (quantityFor consumer pool).val := by
  rw [val_quantityFor]
  exact one_le_upTo (one_le_neededQuantity consumer pool) pool.available?

/-- Of a pool that has something left no more is selected than is left. -/
theorem quantityFor_le {available : Amount} (havailable : pool.available? = some available)
    (hne : available ≠ 0) : (quantityFor consumer pool).val ≤ available.val := by
  have hnonneg : 0 ≤ available.val := by
    rw [(PoolView.available?_eq_some_iff.mp havailable).2]
    omega
  have hzero : available.val ≠ 0 := fun h => hne (Amount.ext h)
  rw [val_quantityFor, havailable]
  simp only [upTo]
  omega

/-- What is needed is taken where more than what is taken is there. -/
theorem quantityFor_eq_neededQuantity
    (h : ∀ available, pool.available? = some available →
      (quantityFor consumer pool).val < available.val) :
    quantityFor consumer pool = neededQuantity consumer pool := by
  have hvalue := val_quantityFor consumer pool
  have hneeded := one_le_neededQuantity consumer pool
  apply Amount.ext
  cases havailable : pool.available? with
  | none =>
      rw [havailable] at hvalue
      exact hvalue
  | some available =>
      have hspare := h available havailable
      simp only [havailable, upTo] at hvalue
      omega

end Allotment.Native
