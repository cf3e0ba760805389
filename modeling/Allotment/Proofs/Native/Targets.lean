import Allotment.Policy.Native.Selection

/-!
# The products to be covered

The targets of a selection are the installed products that are not skipped as covered. Each of
them stands once among `targets`, where it first stood among the installed products.
-/

namespace Allotment.Native

/-- The product is installed, and it is not skipped as covered. -/
def IsTarget (settings : NativeSettings) (s : SelectionSnapshot) (id : String) : Prop :=
  id ∈ s.products.map (·.id) ∧
    ¬ (settings.skipCoveredProducts = true ∧ s.compliance.isCovered id = true)

instance (settings : NativeSettings) (s : SelectionSnapshot) (id : String) :
    Decidable (IsTarget settings s id) :=
  inferInstanceAs (Decidable (_ ∧ _))

theorem mem_targets_iff {settings : NativeSettings} {s : SelectionSnapshot} {id : String} :
    id ∈ targets settings s ↔ IsTarget settings s id := by
  rw [targets, List.mem_eraseDups, List.mem_filter, IsTarget, ← Bool.and_eq_true,
    Bool.not_eq_true']
  simp

/-! ## First occurrences -/

/-- The names stand in the order in which they first stand in the given list. -/
def InFirstOrder (within names : List String) : Prop :=
  names.Pairwise fun a b => within.idxOf a < within.idxOf b

theorem InFirstOrder.nodup {within names : List String} (h : InFirstOrder within names) :
    names.Nodup :=
  List.Pairwise.imp (fun hlt heq => Nat.ne_of_lt hlt (congrArg within.idxOf heq)) h

theorem InFirstOrder.filter {within names : List String} (h : InFirstOrder within names)
    (p : String → Bool) : InFirstOrder within (names.filter p) :=
  List.Pairwise.filter p h

/-- Leaving out other names does not change which of two names stands first. -/
theorem idxOf_filter_lt_iff {p : String → Bool} {a b : String} (ha : p a = true) (hb : p b = true)
    (names : List String) :
    (names.filter p).idxOf a < (names.filter p).idxOf b ↔ names.idxOf a < names.idxOf b := by
  induction names with
  | nil => simp
  | cons c names ih =>
      by_cases hc : p c = true
      · simp only [List.filter_cons_of_pos hc, List.idxOf_cons, cond_eq_ite]
        split <;> split <;> simp [ih]
      · have hca : c ≠ a := fun h => hc (h ▸ ha)
        have hcb : c ≠ b := fun h => hc (h ▸ hb)
        rw [List.filter_cons_of_neg hc, ih]
        rw [List.idxOf_cons, List.idxOf_cons, beq_false_of_ne hca, beq_false_of_ne hcb, cond_false,
          cond_false, Nat.add_lt_add_iff_right]

theorem inFirstOrder_filter_iff {p : String → Bool} {names : List String} (within : List String)
    (h : ∀ a ∈ names, p a = true) :
    InFirstOrder (within.filter p) names ↔ InFirstOrder within names :=
  List.Pairwise.iff_of_mem fun ha hb => idxOf_filter_lt_iff (h _ ha) (h _ hb) within

/-- Of equal names the first one is kept. The recursion is that of `eraseDups`, which goes on
with a filtered rest. -/
theorem inFirstOrder_eraseDups : (names : List String) → InFirstOrder names names.eraseDups
  | [] => List.Pairwise.nil
  | a :: names => by
      have hrest : ∀ b ∈ (names.filter fun b => !b == a).eraseDups, b ≠ a := by
        intro b hb
        simpa using (List.mem_filter.mp (List.mem_eraseDups.mp hb)).2
      have ih := inFirstOrder_eraseDups (names.filter fun b => !b == a)
      rw [inFirstOrder_filter_iff names fun b hb => by simpa using hrest b hb] at ih
      rw [List.eraseDups_cons]
      refine List.pairwise_cons.mpr ⟨fun b hb => ?_, List.Pairwise.imp_of_mem ?_ ih⟩
      · have hab : a ≠ b := (hrest b hb).symm
        simp [List.idxOf_cons, beq_false_of_ne hab]
      · intro b c hb hc hlt
        have hab : a ≠ b := (hrest b hb).symm
        have hac : a ≠ c := (hrest c hc).symm
        simpa [List.idxOf_cons, beq_false_of_ne hab, beq_false_of_ne hac] using hlt
termination_by names => names.length
decreasing_by exact Nat.lt_succ_of_le (List.length_filter_le _ _)

theorem targets_inFirstOrder (settings : NativeSettings) (s : SelectionSnapshot) :
    InFirstOrder (s.products.map (·.id)) (targets settings s) := by
  refine (inFirstOrder_filter_iff _ fun id hid => ?_).mp (inFirstOrder_eraseDups _)
  exact (List.mem_filter.mp (List.mem_eraseDups.mp hid)).2

end Allotment.Native
