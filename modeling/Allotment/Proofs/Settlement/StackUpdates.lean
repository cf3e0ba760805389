import Allotment.Proofs.Native.Coverage
import Allotment.Proofs.Native.Directives
import Allotment.Settlement
import Mathlib.Algebra.Ring.Nat
import Mathlib.Data.List.Induction
import Mathlib.Data.List.Nodup
import Mathlib.Data.Set.Function

/-!
# Stack bookkeeping

What the native policy tells the sub-pools of stacks. The total of a stack is what all entitlements
in it come to, as far as amounts go, and it does not depend on the order in which they are added up
(`get?_stackTotals`, `stackTotals_perm`). So there is one update for each stack that has a sub-pool
and an entitlement, and other keys of the entitlements change nothing (`updates_native`).
-/

namespace Allotment

/-! ## Other keys -/

namespace Table

variable {α : Type}

theorem put_perm {name : String} {es : List (String × α)} (h : ∀ e ∈ es, e.1 ≠ name) (value : α) :
    (put name value es).Perm ((name, value) :: es) := by
  induction es with
  | nil => exact List.Perm.refl _
  | cons d ds ih =>
      obtain ⟨hd, hds⟩ := List.forall_mem_cons.mp h
      unfold put
      rw [if_neg hd]
      split
      · exact List.Perm.refl _
      · exact ((ih hds).cons d).trans (List.Perm.swap _ _ _)

/-- Where no name stands twice, no entry is lost in making a table. -/
theorem entries_ofList_perm {es : List (String × α)} (h : (es.map (·.1)).Nodup) :
    (ofList es).entries.Perm es := by
  induction es using List.reverseRecOn with
  | nil => exact List.Perm.refl _
  | append_singleton es e ih =>
      rw [List.map_append, List.nodup_append] at h
      obtain ⟨hnodup, -, hapart⟩ := h
      have hentries := ih hnodup
      have hnew : ∀ d ∈ (ofList es).entries, d.1 ≠ e.1 := fun d hd =>
        hapart _ (List.mem_map_of_mem (hentries.mem_iff.mp hd)) _ (by simp)
      have hlast : (ofList (es ++ [e])).entries = put e.1 e.2 (ofList es).entries := by
        rw [ofList, List.foldl_concat]
        rfl
      have hend : (e :: es).Perm (es ++ [e]) := (List.perm_append_singleton e es).symm
      rw [hlast]
      exact (put_perm hnew e.2).trans ((hentries.cons e).trans hend)

/-- The same values under other names. -/
def rename (f : String → String) (t : Table α) : Table α :=
  ofList (t.entries.map fun e => (f e.1, e.2))

theorem values_rename_perm {f : String → String} {t : Table α}
    (h : Set.InjOn f {key | key ∈ t.keys}) : (t.rename f).values.Perm t.values := by
  have hnodup : ((t.entries.map fun e => (f e.1, e.2)).map (·.1)).Nodup := by
    have hnames : (t.entries.map fun e => (f e.1, e.2)).map (·.1) = t.keys.map f := by
      simp [keys]
    rw [hnames]
    exact t.nodup_keys.map_on fun a ha b hb => h ha hb
  have hvalues : t.values = (t.entries.map fun e => (f e.1, e.2)).map (·.2) := by
    simp [values]
  rw [hvalues]
  exact (entries_ofList_perm hnodup).map _

end Table

/-! ## Totals -/

/-- Stopping at the greatest amount before more is added changes nothing. -/
theorem Amount.clamp_add_ofUnits (n : Nat) (units : UInt32) :
    (clamp n).add (ofUnits units) = clamp ((n + units.toNat : Nat) : Int) := by
  apply ext
  simp only [add, val_ofUnits, clamp]
  omega

namespace Native

/-- The entitlement is one of the stack. -/
def isInStack (stackId : String) (e : EntitlementView) : Bool :=
  e.pool.productAttribute? Attribute.stackingId == some stackId

/-- What the entitlements of the stack come to. -/
def unitsIn (stackId : String) (es : List EntitlementView) : Nat :=
  ((es.filter (isInStack stackId)).map (·.quantity.toNat)).sum

theorem unitsIn_append_singleton (stackId : String) (es : List EntitlementView)
    (e : EntitlementView) :
    unitsIn stackId (es ++ [e]) =
      unitsIn stackId es + if isInStack stackId e then e.quantity.toNat else 0 := by
  rw [unitsIn, unitsIn, List.filter_append, List.map_append, List.sum_append]
  cases h : isInStack stackId e <;> simp [h]

theorem unitsIn_perm {es others : List EntitlementView} (h : es.Perm others) (stackId : String) :
    unitsIn stackId es = unitsIn stackId others :=
  ((h.filter _).map _).sum_nat

theorem unitsIn_eq_zero {stackId : String} {es : List EntitlementView}
    (h : es.any (isInStack stackId) = false) : unitsIn stackId es = 0 := by
  rw [List.any_eq_false] at h
  rw [unitsIn, List.filter_eq_nil_iff.mpr h]
  rfl

/-- A stack has a total exactly if an entitlement is in it. -/
theorem get?_stackTotals (es : List EntitlementView) (stackId : String) :
    (stackTotals es).get? stackId =
      if es.any (isInStack stackId) then some (.clamp (unitsIn stackId es)) else none := by
  -- From the right: the last entitlement is added last, to the total of its own stack alone.
  induction es using List.reverseRecOn generalizing stackId with
  | nil => rfl
  | append_singleton es e ih =>
      have hlast : stackTotals (es ++ [e]) = addToStack (stackTotals es) e := by
        rw [stackTotals, List.foldl_concat]
        rfl
      rw [hlast, addToStack, List.any_append, unitsIn_append_singleton]
      cases hstack : e.pool.productAttribute? Attribute.stackingId with
      | none =>
          have hout : isInStack stackId e = false := by simp [isInStack, hstack]
          simp [hout, ih]
      | some own =>
          have hearlier : ((stackTotals es).get? own).getD 0 = .clamp (unitsIn own es) := by
            rw [ih]
            cases hany : es.any (isInStack own) with
            | true => rfl
            | false =>
                rw [unitsIn_eq_zero hany]
                rfl
          rw [Table.get?_insert, hearlier, Amount.clamp_add_ofUnits]
          by_cases hown : own = stackId
          · have hin : isInStack stackId e = true := by simp [isInStack, hstack, hown]
            simp [hin, hown]
          · have hout : isInStack stackId e = false := by simp [isInStack, hstack, hown]
            simp [hout, hown, ih]

theorem stackTotals_perm {es others : List EntitlementView} (h : es.Perm others) :
    stackTotals es = stackTotals others := by
  apply Table.ext_get?
  intro stackId
  rw [get?_stackTotals, get?_stackTotals, unitsIn_perm h, h.any_eq]

end Native

/-! ## Updates -/

/-- A new quantity for the sub-pool of a stack. -/
structure StackUpdate where
  stackId : String
  poolId : String
  quantity : Amount
  deriving DecidableEq, Repr

namespace StackUpdate

def directive (u : StackUpdate) : Directive := .updateSubPool u.stackId u.poolId u.quantity

end StackUpdate

namespace Grant

/-- The entitlements in a stack. -/
def inStack (g : Grant) (stackId : String) : List Entitlement :=
  g.entitlements.values.filter fun e => e.pool.stackingId? == some stackId

/-- The update is due: the stack has a sub-pool, which it names, and an entitlement, and it tells
what all entitlements in the stack come to. -/
structure Due (g : Grant) (u : StackUpdate) : Prop where
  subPool : ∃ subPool, g.subPools.get? u.stackId = some subPool ∧ u.poolId = subPool.id
  granted : ∃ e ∈ g.entitlements.values, e.pool.stackingId? = some u.stackId
  total : u.quantity.val =
    min ((g.inStack u.stackId).map (·.quantity.toNat)).sum 9223372036854775807

/-- The updates in the order of the stacks. -/
def updates (g : Grant) : List StackUpdate :=
  (Native.stackTotals g.snapshot.entitlements.values).entries.filterMap fun total =>
    (g.subPools.get? total.1).map fun subPool => ⟨total.1, subPool.id, total.2⟩

variable {g : Grant}

theorem stackDirectives_eq (g : Grant) :
    Native.stackDirectives g.snapshot = g.updates.map StackUpdate.directive := by
  rw [Native.stackDirectives, updates, List.map_filterMap]
  refine List.filterMap_congr fun total _ => ?_
  simp only [snapshot, Table.get?_map, Option.map_map]
  rfl

theorem pairwise_updates (g : Grant) :
    g.updates.Pairwise fun u v => u.stackId < v.stackId := by
  refine List.Pairwise.filterMap _ ?_ (Native.stackTotals _).ascending
  intro total later hlt u hu v hv
  obtain ⟨subPool, -, rfl⟩ := Option.map_eq_some_iff.mp hu
  obtain ⟨other, -, rfl⟩ := Option.map_eq_some_iff.mp hv
  exact hlt

theorem get?_stackTotals_eq_some_iff {stackId : String} {total : Amount} :
    (Native.stackTotals g.snapshot.entitlements.values).get? stackId = some total ↔
      (∃ e ∈ g.entitlements.values, e.pool.stackingId? = some stackId) ∧
        total.val = min ((g.inStack stackId).map (·.quantity.toNat)).sum 9223372036854775807 := by
  have hviews : g.snapshot.entitlements.values = g.entitlements.values.map EntitlementView.of :=
    Table.values_map _ _
  have hin (e : Entitlement) :
      Native.isInStack stackId (.of e) = (e.pool.stackingId? == some stackId) := rfl
  have hgranted : ((g.entitlements.values.map EntitlementView.of).any
      (Native.isInStack stackId)) = true ↔
        ∃ e ∈ g.entitlements.values, e.pool.stackingId? = some stackId := by
    simp [List.any_map, hin]
  have hunits : Native.unitsIn stackId (g.entitlements.values.map EntitlementView.of) =
      ((g.inStack stackId).map (·.quantity.toNat)).sum := by
    rw [Native.unitsIn, List.filter_map, List.map_map]
    rfl
  have hclamp (n : Nat) : (Amount.clamp n).val = min n 9223372036854775807 := by
    simp only [Amount.clamp]
    omega
  rw [Native.get?_stackTotals, hviews, hunits, ← hgranted]
  cases (g.entitlements.values.map EntitlementView.of).any (Native.isInStack stackId) with
  | false => simp
  | true =>
      simp only [if_true, Option.some.injEq, true_and, ← hclamp]
      exact ⟨fun h => h ▸ rfl, fun h => Amount.ext h.symm⟩

theorem mem_updates_iff {u : StackUpdate} : u ∈ g.updates ↔ g.Due u := by
  rw [updates, List.mem_filterMap]
  constructor
  · rintro ⟨⟨stackId, total⟩, htotal, hu⟩
    obtain ⟨subPool, hsubPool, rfl⟩ := Option.map_eq_some_iff.mp hu
    obtain ⟨hgranted, htotal⟩ :=
      get?_stackTotals_eq_some_iff.mp (Table.get?_eq_some_iff.mpr htotal)
    exact ⟨⟨subPool, hsubPool, rfl⟩, hgranted, htotal⟩
  · rintro ⟨⟨subPool, hsubPool, hid⟩, hgranted, htotal⟩
    refine ⟨(u.stackId, u.quantity), ?_, ?_⟩
    · exact Table.get?_eq_some_iff.mp (get?_stackTotals_eq_some_iff.mpr ⟨hgranted, htotal⟩)
    · rw [hsubPool, Option.map_some, ← hid]

theorem updates_rename {f : String → String} (h : Set.InjOn f {key | key ∈ g.entitlements.keys}) :
    updates { g with entitlements := g.entitlements.rename f } = g.updates := by
  have hperm : (g.entitlements.rename f).values.Perm g.entitlements.values :=
    Table.values_rename_perm h
  have htotals := Native.stackTotals_perm (hperm.map EntitlementView.of)
  simp only [updates, snapshot, Table.values_map, htotals]

/-- The native policy directs the bonus pools first and then the updates of the stacks, in the order
of their ids. An update is there exactly if it is due: the stack has a sub-pool, some entitlement is
in the stack, and the quantity is what all of these come to, whatever else holds of them. Under other
keys, as long as they differ, the entitlements lead to the same updates. -/
theorem updates_native (g : Grant) :
    ∃ (bonuses : List Directive) (updates : List StackUpdate),
      Native.directives g.snapshot = bonuses ++ updates.map StackUpdate.directive ∧
      (∀ d ∈ bonuses, Native.isBonus d = true) ∧
      updates.Pairwise (fun u v => u.stackId < v.stackId) ∧
      (∀ u, u ∈ updates ↔ g.Due u) ∧
      ∀ f : String → String, Set.InjOn f {key | key ∈ g.entitlements.keys} →
        ∃ others : List Directive,
          Native.directives (snapshot { g with entitlements := g.entitlements.rename f }) =
            others ++ updates.map StackUpdate.directive ∧
          ∀ d ∈ others, Native.isBonus d = true := by
  refine ⟨Native.bonusDirectives g.snapshot, g.updates, ?_, ?_, g.pairwise_updates,
    fun u => mem_updates_iff, fun f hf => ?_⟩
  · rw [Native.directives, stackDirectives_eq]
  · exact fun d => Native.isBonus_of_mem_bonusDirectives
  · refine ⟨Native.bonusDirectives (snapshot { g with entitlements := g.entitlements.rename f }),
      ?_, fun d => Native.isBonus_of_mem_bonusDirectives⟩
    rw [Native.directives, stackDirectives_eq, updates_rename hf]

/-- A pool whose entitlements stack. -/
def stacking (id stackId : String) (attributes : List (String × String)) : Pool :=
  { Native.yearly id 10 [] with
    attributes := .ofList attributes
    productAttributes := .ofList [(Attribute.stackingId, stackId)] }

/-- A manifest has entitlements in two stacks, one of which has a sub-pool: two units of a derived
pool, whose stack has blanks around its id, three of a pool with a limit of guests that cannot be
used, and four in the other stack. -/
def twoStacks : Grant where
  consumer := ⟨"c", .manifest, .empty, .empty, none⟩
  entitlements := .ofList [
    ("e1", ⟨"e1", "c", stacking "derived" " stack " [(Attribute.derivedPool, "true")], 2⟩),
    ("e2", ⟨"e2", "c", stacking "many" "stack" [(Attribute.virtLimit, "many")], 3⟩),
    ("e3", ⟨"e3", "c", stacking "other" "heap" [], 4⟩)]
  subPools := .ofList [("stack", Native.yearly "sub" 10 [])]
  success := false
  draws := .empty

/-- The first key becomes the last one, and the sub-pool is still told of five units. -/
theorem updates_native_twoStacks :
    let last (key : String) : String := if key = "e1" then "z" else key
    Set.InjOn last {key | key ∈ twoStacks.entitlements.keys} ∧
      twoStacks.Due ⟨"stack", "sub", 5⟩ ∧
      .updateSubPool "stack" "sub" 5 ∈
        Native.directives
          (snapshot { twoStacks with entitlements := twoStacks.entitlements.rename last }) := by
  intro last
  have hinj : Set.InjOn last {key | key ∈ twoStacks.entitlements.keys} := by
    have hkeys : ∀ a ∈ twoStacks.entitlements.keys, ∀ b ∈ twoStacks.entitlements.keys,
        last a = last b → a = b := by decide
    exact fun a ha b hb => hkeys a ha b hb
  have hdue : twoStacks.Due ⟨"stack", "sub", 5⟩ :=
    ⟨⟨Native.yearly "sub" 10 [], by decide, rfl⟩, by decide, by decide⟩
  obtain ⟨bonuses, updates, -, -, -, hmem, hrename⟩ := updates_native twoStacks
  obtain ⟨others, hdirectives, -⟩ := hrename last hinj
  refine ⟨hinj, hdue, ?_⟩
  rw [hdirectives]
  exact List.mem_append_right _ (List.mem_map_of_mem ((hmem _).mpr hdue))

end Grant

end Allotment
