import Allotment.Policy.Native.Bookkeeping

/-!
# What the native policy directs

The quantities of its directives, whatever was granted: the total of a stack is never negative,
and a bonus pool is without limit or has a positive quantity, unless nothing was granted from its
source (`pos_of_bonusQuantity?`).
-/

namespace Allotment.Native

/-! ## The two kinds of directives -/

def isBonus : Directive → Bool
  | .createBonusPool _ _ => true
  | .updateSubPool _ _ _ => false

theorem isBonus_of_bonusDirective? {consumer : ConsumerView} {e : EntitlementView} {d : Directive}
    (h : bonusDirective? consumer e = some d) : isBonus d = true := by
  obtain ⟨limit, -, h⟩ := Option.bind_eq_some_iff.mp h
  obtain ⟨quantity, -, h⟩ := Option.bind_eq_some_iff.mp h
  cases h
  rfl

theorem isBonus_of_mem_bonusDirectives {s : GrantSnapshot} {d : Directive}
    (h : d ∈ bonusDirectives s) : isBonus d = true := by
  obtain ⟨e, -, hd⟩ := List.mem_filterMap.mp h
  exact isBonus_of_bonusDirective? hd

theorem isBonus_of_mem_stackDirectives {s : GrantSnapshot} {d : Directive}
    (h : d ∈ stackDirectives s) : isBonus d = false := by
  obtain ⟨total, -, hd⟩ := List.mem_filterMap.mp h
  obtain ⟨subPool, -, rfl⟩ := Option.map_eq_some_iff.mp hd
  rfl

theorem filter_isBonus_directives (s : GrantSnapshot) :
    (directives s).filter isBonus = bonusDirectives s := by
  have hbonus : (bonusDirectives s).filter isBonus = bonusDirectives s :=
    List.filter_eq_self.mpr fun d => isBonus_of_mem_bonusDirectives
  have hstack : (stackDirectives s).filter isBonus = [] := by
    rw [List.filter_eq_nil_iff]
    intro d hd
    rw [isBonus_of_mem_stackDirectives hd]
    exact Bool.false_ne_true
  rw [directives, List.filter_append, hbonus, hstack, List.append_nil]

/-! ## Totals of stacks -/

/-- No total is negative. -/
def NonNegative (totals : Table Amount) : Prop := ∀ total ∈ totals.entries, 0 ≤ total.2.val

theorem NonNegative.get?_getD {totals : Table Amount} (h : NonNegative totals)
    (stackId : String) : 0 ≤ ((totals.get? stackId).getD 0).val := by
  cases hget : totals.get? stackId with
  | none => exact Int.le_refl 0
  | some total => exact h _ (Table.get?_eq_some_iff.mp hget)

theorem NonNegative.addToStack {totals : Table Amount} (h : NonNegative totals)
    (e : EntitlementView) : NonNegative (addToStack totals e) := by
  unfold Native.addToStack
  split
  · rename_i stackId _
    intro total htotal
    rcases Table.mem_put htotal with rfl | htotal
    · exact Amount.val_add_nonneg (h.get?_getD stackId) (Amount.val_ofUnits_nonneg _)
    · exact h total htotal
  · exact h

theorem nonNegative_stackTotals (entitlements : List EntitlementView) :
    NonNegative (stackTotals entitlements) := by
  have hrun : ∀ totals : Table Amount, NonNegative totals →
      NonNegative (entitlements.foldl addToStack totals) := by
    induction entitlements with
    | nil => exact fun _ htotals => htotals
    | cons e es ih => exact fun totals htotals => ih _ (htotals.addToStack e)
  exact hrun .empty fun total htotal => by cases htotal

theorem mem_stackDirectives {s : GrantSnapshot} {d : Directive} (h : d ∈ stackDirectives s) :
    ∃ stackId subPool total, s.subPools.get? stackId = some subPool ∧
      d = .updateSubPool stackId subPool.id total ∧ 0 ≤ total.val := by
  obtain ⟨total, htotal, hd⟩ := List.mem_filterMap.mp h
  obtain ⟨subPool, hsubPool, rfl⟩ := Option.map_eq_some_iff.mp hd
  exact ⟨total.1, subPool, total.2, hsubPool, rfl, nonNegative_stackTotals _ _ htotal⟩

/-! ## Bonus pools -/

/-- The limit allows a fixed number of guests. -/
def IsCount (limit : String) : Prop :=
  Text.sameLetters limit "unlimited" = false ∧ ∃ n, Amount.read? limit = some n ∧ 0 < n.val

theorem bonusQuantity?_zero {limit : String} (h : IsCount limit) :
    bonusQuantity? limit 0 = some 0 := by
  obtain ⟨hlimited, n, hread, hpos⟩ := h
  rw [bonusQuantity?, hlimited, if_neg Bool.false_ne_true, hread]
  dsimp only
  rw [if_pos hpos, Amount.mul_ofUnits_zero]

theorem pos_of_bonusQuantity? {limit : String} {granted : UInt32} {quantity : Amount}
    (h : bonusQuantity? limit granted = some quantity) (hgranted : granted ≠ 0 ∨ ¬ IsCount limit) :
    0 < quantity.val ∨ quantity = Pool.unlimited := by
  unfold bonusQuantity? at h
  split at h
  · cases h
    exact .inr rfl
  · rename_i hlimited
    split at h
    · rename_i n hread
      split at h
      · rename_i hpos
        cases h
        have hcount : IsCount limit := ⟨by simpa using hlimited, n, hread, hpos⟩
        have hunits : 0 < (Amount.ofUnits granted).val := by
          rcases hgranted with hne | hnot
          · have hne' : granted.toNat ≠ 0 := fun h0 => hne (UInt32.toNat_inj.mp h0)
            rw [Amount.val_ofUnits]
            omega
          · exact absurd hcount hnot
        exact .inl (Amount.val_mul_pos hpos hunits)
      · cases h
    · cases h

theorem bonusDirective?_eq_some_iff {consumer : ConsumerView} {e : EntitlementView}
    {d : Directive} :
    bonusDirective? consumer e = some d ↔
      ∃ limit quantity, bonusLimit? consumer e = some limit ∧
        bonusQuantity? limit e.quantity = some quantity ∧
        d = .createBonusPool e.pool.id quantity := by
  unfold bonusDirective?
  cases hlimit : bonusLimit? consumer e with
  | none => simp
  | some limit =>
      cases hquantity : bonusQuantity? limit e.quantity with
      | none => simp [hquantity]
      | some quantity => simp [hquantity, eq_comm]

end Allotment.Native
