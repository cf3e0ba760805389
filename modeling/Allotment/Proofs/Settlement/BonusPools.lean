import Allotment.Proofs.Policy.Views
import Allotment.Proofs.Settlement.NativeSettlement

/-!
# Bonus pools

Which entitlements bring a bonus pool, said of the granted pools and not of their views. The native
policy tells pools that are bonuses themselves by a test of its own: it knows the word `true` alone,
while a pool counts as derived under the mark `1`, too. Everything else is as it should be, so the
bonus pools are those of the pools that are not derived exactly if no pool with the other mark would
bring one (`bonuses_native`).
-/

namespace Allotment

namespace Pool

/-- The first limit of virtual guests that is not blank, the pool's own before that of its
product. -/
def guestLimit? (pool : Pool) : Option String :=
  (pool.attribute? Attribute.virtLimit).or (pool.productAttribute? Attribute.virtLimit)

/-- The pool is marked as derived by the word `true`, in any case of letters. -/
def DerivedByWord (pool : Pool) : Prop :=
  ∃ mark, pool.attribute? Attribute.derivedPool = some mark ∧ Text.sameLetters mark "true" = true

variable {pool : Pool}

theorem isDerived_iff :
    pool.isDerived = true ↔
      pool.DerivedByWord ∨ pool.attribute? Attribute.derivedPool = some "1" := by
  unfold isDerived DerivedByWord
  cases pool.attribute? Attribute.derivedPool with
  | none => simp [isOn]
  | some mark => simp [isOn]

theorem isDerived_view_iff : Native.isDerived (.of pool) = true ↔ pool.DerivedByWord := by
  unfold Native.isDerived DerivedByWord
  rw [PoolView.attribute?_of]
  cases pool.attribute? Attribute.derivedPool with
  | none => simp
  | some mark => simp

theorem virtLimit?_view : Native.virtLimit? (.of pool) = pool.guestLimit? := by
  unfold Native.virtLimit? guestLimit?
  rw [PoolView.attribute?_of, PoolView.productAttribute?_of]
  cases pool.attribute? Attribute.virtLimit with
  | none => rfl
  | some limit => rfl

end Pool

/-! ## What an entitlement brings -/

/-- What a limit of guests comes to for so many granted units. -/
inductive GuestQuantity (limit : String) (units : UInt32) : Amount → Prop
  | unlimited : Text.sameLetters limit "unlimited" = true → GuestQuantity limit units (-1)
  | counted {guests quantity : Amount} :
      Text.sameLetters limit "unlimited" = false → Amount.read? limit = some guests →
      0 < guests.val → quantity.val = min (guests.val * units.toNat) 9223372036854775807 →
      GuestQuantity limit units quantity

/-- The entitlement brings a bonus pool of the quantity, as far as derived pools are those that the
test tells: the consumer is no manifest, the pool is not derived, and its limit of guests comes to
the quantity. -/
structure BringsBonus (IsDerived : Pool → Prop) (consumer : Consumer) (e : Entitlement)
    (quantity : Amount) : Prop where
  notManifest : consumer.isManifest = false
  notDerived : ¬ IsDerived e.pool
  limited : ∃ limit, e.pool.guestLimit? = some limit ∧ GuestQuantity limit e.quantity quantity

namespace BringsBonus

variable {consumer : Consumer} {e : Entitlement} {quantity : Amount}

theorem byWord (h : BringsBonus (·.isDerived = true) consumer e quantity) :
    BringsBonus Pool.DerivedByWord consumer e quantity :=
  { h with notDerived := fun hword => h.notDerived (Pool.isDerived_iff.mpr (.inl hword)) }

theorem of_byWord (h : BringsBonus Pool.DerivedByWord consumer e quantity)
    (hmark : e.pool.attribute? Attribute.derivedPool ≠ some "1") :
    BringsBonus (·.isDerived = true) consumer e quantity :=
  { h with notDerived := fun hderived => (Pool.isDerived_iff.mp hderived).elim h.notDerived hmark }

end BringsBonus

/-- The directives make the bonus pools that the entitlements bring: in their order, one for each
entitlement that brings one, and none for the others. -/
inductive Bonuses (Brings : Entitlement → Amount → Prop) : List Entitlement → List Directive → Prop
  | ended : Bonuses Brings [] []
  | brought {e : Entitlement} {quantity : Amount} {es : List Entitlement} {ds : List Directive} :
      Brings e quantity → Bonuses Brings es ds →
      Bonuses Brings (e :: es) (.createBonusPool e.pool.id quantity :: ds)
  | passed {e : Entitlement} {es : List Entitlement} {ds : List Directive} :
      (∀ quantity, ¬ Brings e quantity) → Bonuses Brings es ds → Bonuses Brings (e :: es) ds

namespace Bonuses

variable {Brings Fewer : Entitlement → Amount → Prop} {es : List Entitlement}
  {ds few : List Directive}

theorem filterMap {directive? : Entitlement → Option Directive}
    (h : ∀ e d, directive? e = some d ↔
      ∃ quantity, Brings e quantity ∧ d = .createBonusPool e.pool.id quantity)
    (es : List Entitlement) : Bonuses Brings es (es.filterMap directive?) := by
  induction es with
  | nil => exact .ended
  | cons e es ih =>
      cases hd : directive? e with
      | none =>
          rw [List.filterMap_cons_none hd]
          refine .passed (fun quantity hbrings => ?_) ih
          have hsome := (h e _).mpr ⟨quantity, hbrings, rfl⟩
          rw [hd] at hsome
          cases hsome
      | some d =>
          rw [List.filterMap_cons_some hd]
          obtain ⟨quantity, hbrings, rfl⟩ := (h e d).mp hd
          exact .brought hbrings ih

theorem congr (h : Bonuses Brings es ds)
    (hsame : ∀ e ∈ es, ∀ quantity, Brings e quantity ↔ Fewer e quantity) :
    Bonuses Fewer es ds := by
  induction h with
  | ended => exact .ended
  | brought hbrings _ ih =>
      obtain ⟨hfirst, hrest⟩ := List.forall_mem_cons.mp hsame
      exact .brought ((hfirst _).mp hbrings) (ih hrest)
  | passed hnone _ ih =>
      obtain ⟨hfirst, hrest⟩ := List.forall_mem_cons.mp hsame
      exact .passed (fun quantity h => hnone quantity ((hfirst quantity).mpr h)) (ih hrest)

/-- If fewer entitlements bring a bonus pool, there are no more directives; if there are as many,
the same entitlements bring one. -/
theorem of_fewer (hfew : Bonuses Fewer es few) (h : Bonuses Brings es ds)
    (hsub : ∀ e quantity, Fewer e quantity → Brings e quantity) :
    few.length ≤ ds.length ∧
      (ds.length ≤ few.length →
        ∀ e ∈ es, ∀ quantity, Brings e quantity → ∃ other, Fewer e other) := by
  induction hfew generalizing ds with
  | ended =>
      cases h
      exact ⟨Nat.le_refl _, by simp⟩
  | @brought e quantity es few hfirst _ ih =>
      cases h with
      | brought _ hrest =>
          obtain ⟨hle, hall⟩ := ih hrest
          refine ⟨Nat.succ_le_succ hle, fun hge => ?_⟩
          exact List.forall_mem_cons.mpr
            ⟨fun _ _ => ⟨quantity, hfirst⟩, hall (Nat.le_of_succ_le_succ hge)⟩
      | passed hnone _ => exact absurd (hsub _ _ hfirst) (hnone _)
  | @passed e es few _ _ ih =>
      cases h with
      | brought _ hrest =>
          -- One directive has no counterpart here, so the rest cannot be as many.
          obtain ⟨hle, -⟩ := ih hrest
          refine ⟨Nat.le_succ_of_le hle, fun hge => ?_⟩
          rw [List.length_cons] at hge
          omega
      | passed hnone hrest =>
          obtain ⟨hle, hall⟩ := ih hrest
          exact ⟨hle, fun hge => List.forall_mem_cons.mpr
            ⟨fun quantity hbrings => absurd hbrings (hnone quantity), hall hge⟩⟩

end Bonuses

/-! ## The native policy -/

theorem Amount.val_mul_ofUnits {guests : Amount} (hpos : 0 < guests.val) (units : UInt32) :
    (guests.mul (.ofUnits units)).val = min (guests.val * units.toNat) 9223372036854775807 := by
  have hproduct : 0 ≤ guests.val * (units.toNat : Int) :=
    Int.mul_nonneg (Int.le_of_lt hpos) (Int.natCast_nonneg _)
  simp only [mul, val_ofUnits, clamp]
  omega

theorem bonusQuantity?_eq_some_iff {limit : String} {units : UInt32} {quantity : Amount} :
    Native.bonusQuantity? limit units = some quantity ↔ GuestQuantity limit units quantity := by
  unfold Native.bonusQuantity?
  constructor
  · intro h
    split at h
    · rename_i hunlimited
      cases h
      exact .unlimited hunlimited
    · rename_i hlimited
      split at h
      · rename_i guests hread
        split at h
        · rename_i hpos
          cases h
          exact .counted (Bool.eq_false_iff.mpr hlimited) hread hpos
            (Amount.val_mul_ofUnits hpos units)
        · cases h
      · cases h
  · rintro (hunlimited | ⟨hlimited, hread, hpos, hquantity⟩)
    · rw [if_pos hunlimited]
      rfl
    · rw [hlimited, if_neg Bool.false_ne_true, hread]
      dsimp only
      rw [if_pos hpos]
      exact congrArg some (Amount.ext ((Amount.val_mul_ofUnits hpos units).trans hquantity.symm))

namespace Grant

variable {g : Grant}

theorem bonusDirective?_view_eq_some_iff {e : Entitlement} {d : Directive} :
    Native.bonusDirective? (.of g.consumer none) (.of e) = some d ↔
      ∃ quantity, BringsBonus Pool.DerivedByWord g.consumer e quantity ∧
        d = .createBonusPool e.pool.id quantity := by
  have hunits : (EntitlementView.of e).quantity = e.quantity := rfl
  have hid : (EntitlementView.of e).pool.id = e.pool.id := rfl
  rw [Native.bonusDirective?_eq_some_iff, hunits, hid]
  simp only [bonusLimit?_eq_some_iff, bonusQuantity?_eq_some_iff, Pool.virtLimit?_view,
    ← Bool.not_eq_true (Native.isDerived _), Pool.isDerived_view_iff]
  constructor
  · rintro ⟨limit, quantity, ⟨hmanifest, hderived, hlimit⟩, hquantity, rfl⟩
    exact ⟨quantity, ⟨hmanifest, hderived, limit, hlimit, hquantity⟩, rfl⟩
  · rintro ⟨quantity, ⟨hmanifest, hderived, limit, hlimit, hquantity⟩, rfl⟩
    exact ⟨limit, quantity, ⟨hmanifest, hderived, hlimit⟩, hquantity, rfl⟩

theorem bonuses_byWord (g : Grant) :
    Bonuses (BringsBonus Pool.DerivedByWord g.consumer) g.entitlements.values
      ((Native.directives g.snapshot).filter Native.isBonus) := by
  have hviews : Native.bonusDirectives g.snapshot = g.entitlements.values.filterMap fun e =>
      Native.bonusDirective? (.of g.consumer none) (.of e) := by
    simp only [Native.bonusDirectives, snapshot, Table.values_map, List.filterMap_map,
      Function.comp_def]
  rw [Native.filter_isBonus_directives, hviews]
  exact Bonuses.filterMap (fun e d => bonusDirective?_view_eq_some_iff) _

/-- The bonus pools that the native policy directs are, in the order of the keys, one for each
entitlement of a consumer that is no manifest to a pool that is not derived by the word `true` and
has a limit of guests that can be used. They are those of the pools that are not derived at all
exactly if no entitlement to a pool with the mark `1` brings one. -/
theorem bonuses_native (g : Grant) :
    let bonuses := (Native.directives g.snapshot).filter Native.isBonus
    Bonuses (BringsBonus Pool.DerivedByWord g.consumer) g.entitlements.values bonuses ∧
    (Bonuses (BringsBonus (·.isDerived = true) g.consumer) g.entitlements.values bonuses ↔
      ∀ e ∈ g.entitlements.values, e.pool.attribute? Attribute.derivedPool = some "1" →
        ∀ quantity, ¬ BringsBonus Pool.DerivedByWord g.consumer e quantity) := by
  intro bonuses
  have hbyWord : Bonuses (BringsBonus Pool.DerivedByWord g.consumer) g.entitlements.values
      bonuses := g.bonuses_byWord
  refine ⟨hbyWord, fun h e he hone quantity hbrings => ?_, fun h => ?_⟩
  · obtain ⟨other, hother⟩ :=
      (h.of_fewer hbyWord fun _ _ => BringsBonus.byWord).2 (Nat.le_refl _) e he quantity hbrings
    exact hother.notDerived (Pool.isDerived_iff.mpr (.inr hone))
  · refine hbyWord.congr fun e he quantity => ⟨fun hbrings => ?_, BringsBonus.byWord⟩
    exact hbrings.of_byWord fun hone => h e he hone quantity hbrings

/-- Two units of a bonus pool that bears the mark `1` and has a limit of its own. -/
def ofMarkedBonus : Grant where
  consumer := ⟨"c", .system, .empty, .empty, none⟩
  entitlements := .ofList [("e1", ⟨"e1", "c",
    { Native.yearly "bonus" 10 [] with
      attributes := .ofList [(Attribute.derivedPool, "1"), (Attribute.virtLimit, "5")] }, 2⟩)]
  subPools := .empty
  success := true
  draws := .empty

/-- A bonus is made of a bonus. -/
theorem bonuses_native_ofMarkedBonus :
    (∀ e ∈ ofMarkedBonus.entitlements.values, e.pool.isDerived = true) ∧
      Native.directives ofMarkedBonus.snapshot = [.createBonusPool "bonus" 10] ∧
      ¬ Bonuses (BringsBonus (·.isDerived = true) ofMarkedBonus.consumer)
        ofMarkedBonus.entitlements.values
        ((Native.directives ofMarkedBonus.snapshot).filter Native.isBonus) := by
  have hderived : ∀ e ∈ ofMarkedBonus.entitlements.values, e.pool.isDerived = true := by decide
  have hdirectives : Native.directives ofMarkedBonus.snapshot = [.createBonusPool "bonus" 10] := by
    decide
  refine ⟨hderived, hdirectives, fun h => ?_⟩
  rw [hdirectives] at h
  cases h with
  | brought hbrings _ => exact hbrings.notDerived (by decide)
  | passed _ hrest => cases hrest

end Grant

end Allotment
