import Allotment.Policy.Native.Selection
import Mathlib.Data.List.Nodup

/-!
# What is chosen

Facts on `choose` that hold whatever the pools and products are: which pools can be taken first,
and what the recursion keeps from one step to the next. No id is chosen twice, every chosen pool
provides something that the earlier ones do not, and where the ids differ nothing that could be
covered is left.
-/

namespace Allotment.Native

variable {pools : List PoolView} {uncovered : List String}

theorem gain_pos_iff {pool : PoolView} :
    0 < gain uncovered pool ↔ ∃ id ∈ uncovered, pool.provides id = true :=
  List.countP_pos_iff

theorem foremost?_eq_none_iff {α : Type} {better : α → α → Bool} {as : List α} :
    foremost? better as = none ↔ as = [] := by
  cases as with
  | nil => exact iff_of_true rfl rfl
  | cons a as =>
      refine iff_of_false ?_ (List.cons_ne_nil _ _)
      unfold foremost?
      split
      · split <;> exact Option.some_ne_none _
      · exact Option.some_ne_none _

/-- If what is not better is passed on, no item is better than the foremost one. -/
theorem not_better_of_foremost? {α : Type} {better : α → α → Bool}
    (hasymm : ∀ a b, better a b = true → better b a = false)
    (htrans : ∀ a b c, better a b = false → better b c = false → better a c = false)
    {as : List α} {a : α} (h : foremost? better as = some a) :
    ∀ b ∈ as, better b a = false := by
  have hirrefl : ∀ b, better b b = false := by
    intro b
    cases hb : better b b with
    | true => exact hb.symm.trans (hasymm b b hb)
    | false => rfl
  induction as generalizing a with
  | nil => cases h
  | cons d ds ih =>
      intro b hb
      unfold foremost? at h
      cases hrest : foremost? better ds with
      | none =>
          rw [hrest] at h
          cases h
          rw [foremost?_eq_none_iff.mp hrest, List.mem_singleton] at hb
          rw [hb]
          exact hirrefl d
      | some c =>
          rw [hrest] at h
          have hc := ih hrest
          dsimp only at h
          split at h
          · rename_i hbetter
            cases h
            rcases List.mem_cons.mp hb with rfl | hb
            · exact hasymm _ _ hbetter
            · exact hc b hb
          · rename_i hworse
            cases h
            rcases List.mem_cons.mp hb with rfl | hb
            · exact hirrefl b
            · exact htrans b c d (hc b hb) (Bool.eq_false_iff.mpr hworse)

theorem isBetter_eq_false_iff {p q : PoolView} :
    isBetter uncovered p q = false ↔
      gain uncovered p < gain uncovered q ∨
        gain uncovered p = gain uncovered q ∧ q.endDate.instant ≤ p.endDate.instant := by
  simp only [isBetter, Bool.or_eq_false_iff, Bool.and_eq_false_iff, decide_eq_false_iff_not,
    beq_eq_false_iff_ne]
  omega

theorem isBetter_eq_true_iff {p q : PoolView} :
    isBetter uncovered p q = true ↔
      gain uncovered q < gain uncovered p ∨
        gain uncovered p = gain uncovered q ∧ p.endDate.instant < q.endDate.instant := by
  simp only [isBetter, Bool.or_eq_true, Bool.and_eq_true, decide_eq_true_eq, beq_iff_eq]

theorem isBetter_asymm (p q : PoolView) (h : isBetter uncovered p q = true) :
    isBetter uncovered q p = false := by
  rw [isBetter_eq_true_iff] at h
  rw [isBetter_eq_false_iff]
  omega

theorem not_isBetter_trans (p q r : PoolView) (hpq : isBetter uncovered p q = false)
    (hqr : isBetter uncovered q r = false) : isBetter uncovered p r = false := by
  rw [isBetter_eq_false_iff] at hpq hqr ⊢
  omega

/-- No pool at hand is better than the one that is taken. -/
theorem not_isBetter_of_best? {pool q : PoolView} (h : best? uncovered pools = some pool)
    (hq : q ∈ pools) (hgain : 0 < gain uncovered q) : isBetter uncovered q pool = false :=
  not_better_of_foremost? isBetter_asymm not_isBetter_trans h q
    (List.mem_filter.mpr ⟨hq, by simpa using hgain⟩)

theorem gain_le_of_best? {pool q : PoolView} (h : best? uncovered pools = some pool)
    (hq : q ∈ pools) : gain uncovered q ≤ gain uncovered pool := by
  by_cases hgain : 0 < gain uncovered q
  · have hnot := isBetter_eq_false_iff.mp (not_isBetter_of_best? h hq hgain)
    omega
  · omega

theorem best?_eq_none_iff :
    best? uncovered pools = none ↔
      ∀ pool ∈ pools, ∀ id ∈ uncovered, pool.provides id = false := by
  rw [best?, foremost?_eq_none_iff, List.filter_eq_nil_iff]
  simp only [decide_eq_true_eq, gain_pos_iff, not_exists, not_and, Bool.not_eq_true]

theorem gain_pos_of_best? {pool : PoolView} (h : best? uncovered pools = some pool) :
    0 < gain uncovered pool := by
  have hmem := mem_of_foremost? h
  simpa using (List.mem_filter.mp hmem).2

theorem mem_without_iff {id : String} {pool : PoolView} :
    pool ∈ without id pools ↔ pool ∈ pools ∧ pool.id ≠ id := by
  simp [without]

theorem mem_unprovided_iff {pool : PoolView} {id : String} :
    id ∈ unprovided pool uncovered ↔ id ∈ uncovered ∧ pool.provides id = false := by
  simp [unprovided]

/-! ## Where the best pool stands -/

/-- The foremost item is better than those before it, and none of those behind it is better. -/
theorem exists_split_of_foremost? {α : Type} {better : α → α → Bool}
    (hasymm : ∀ a b, better a b = true → better b a = false)
    (htrans : ∀ a b c, better a b = false → better b c = false → better a c = false)
    {as : List α} {a : α} (h : foremost? better as = some a) :
    ∃ before behind, as = before ++ a :: behind ∧ (∀ b ∈ before, better a b = true) ∧
      ∀ b ∈ behind, better b a = false := by
  induction as generalizing a with
  | nil => cases h
  | cons d ds ih =>
      have hbest := not_better_of_foremost? hasymm htrans h
      unfold foremost? at h
      split at h
      · rename_i c hrest
        split at h
        · rename_i hbetter
          cases h
          obtain ⟨before, behind, rfl, hbefore, hbehind⟩ := ih hrest
          exact ⟨d :: before, behind, rfl, List.forall_mem_cons.mpr ⟨hbetter, hbefore⟩, hbehind⟩
        · cases h
          exact ⟨[], ds, rfl, by simp, (List.forall_mem_cons.mp hbest).2⟩
      · cases h
        exact ⟨[], ds, rfl, by simp, (List.forall_mem_cons.mp hbest).2⟩

theorem foremost?_of_split {α : Type} {better : α → α → Bool} {before behind : List α} {a : α}
    (hbefore : ∀ b ∈ before, better a b = true) (hbehind : ∀ b ∈ behind, better b a = false) :
    foremost? better (before ++ a :: behind) = some a := by
  induction before with
  | nil =>
      rw [List.nil_append, foremost?]
      cases hrest : foremost? better behind with
      | none => rfl
      | some c => simp [hbehind c (mem_of_foremost? hrest)]
  | cons b before ih =>
      obtain ⟨hb, hbefore⟩ := List.forall_mem_cons.mp hbefore
      rw [List.cons_append, foremost?, ih hbefore]
      simp [hb]

theorem exists_split_of_filter_eq {α : Type} {p : α → Bool} {as before behind : List α} {a : α}
    (h : as.filter p = before ++ a :: behind) :
    ∃ front back, as = front ++ a :: back ∧ front.filter p = before ∧ back.filter p = behind := by
  obtain ⟨front, rest, rfl, hfront, hrest⟩ := List.filter_eq_append_iff.mp h
  obtain ⟨between, back, rfl, hbetween, -, hback⟩ := List.filter_eq_cons_iff.mp hrest
  refine ⟨front ++ between, back, (List.append_assoc _ _ _).symm, ?_, hback⟩
  rw [List.filter_append, hfront, List.filter_eq_nil_iff.mpr hbetween, List.append_nil]

/-- The best pool provides something. Of the others that do so, it is better than those before it,
and none of those behind it is better. -/
theorem best?_eq_some_iff {pool : PoolView} :
    best? uncovered pools = some pool ↔ 0 < gain uncovered pool ∧
      ∃ before behind, pools = before ++ pool :: behind ∧
        (∀ q ∈ before, 0 < gain uncovered q → isBetter uncovered pool q = true) ∧
        ∀ q ∈ behind, 0 < gain uncovered q → isBetter uncovered q pool = false := by
  constructor
  · intro h
    obtain ⟨before, behind, hsplit, hbefore, hbehind⟩ :=
      exists_split_of_foremost? isBetter_asymm not_isBetter_trans h
    obtain ⟨front, back, hpools, rfl, rfl⟩ := exists_split_of_filter_eq hsplit
    refine ⟨gain_pos_of_best? h, front, back, hpools, fun q hq hpos => ?_, fun q hq hpos => ?_⟩
    · exact hbefore q (List.mem_filter.mpr ⟨hq, by simpa using hpos⟩)
    · exact hbehind q (List.mem_filter.mpr ⟨hq, by simpa using hpos⟩)
  · rintro ⟨hgain, before, behind, rfl, hbefore, hbehind⟩
    rw [best?, List.filter_append, List.filter_cons_of_pos (by simpa using hgain)]
    refine foremost?_of_split (fun q hq => ?_) fun q hq => ?_
    · obtain ⟨hq, hpos⟩ := List.mem_filter.mp hq
      exact hbefore q hq (by simpa using hpos)
    · obtain ⟨hq, hpos⟩ := List.mem_filter.mp hq
      exact hbehind q hq (by simpa using hpos)

/-! ## The recursion -/

theorem choose_of_best? {pool : PoolView} (h : best? uncovered pools = some pool) :
    choose pools uncovered =
      pool :: choose (without pool.id pools) (unprovided pool uncovered) := by
  rw [choose]
  split
  · rename_i first hfirst
    cases h.symm.trans hfirst
    rfl
  · rename_i hnone
    cases h.symm.trans hnone

theorem choose_of_none (h : best? uncovered pools = none) : choose pools uncovered = [] := by
  rw [choose]
  split
  · rename_i first hfirst
    cases h.symm.trans hfirst
  · rfl

/-- One pool is enough where the best one leaves nothing that another one provides. -/
theorem choose_eq_singleton {pool : PoolView} (hfirst : best? uncovered pools = some pool)
    (hlast : best? (unprovided pool uncovered) (without pool.id pools) = none) :
    choose pools uncovered = [pool] := by
  rw [choose_of_best? hfirst, choose_of_none hlast]

theorem choose_eq_nil_iff :
    choose pools uncovered = [] ↔
      ∀ pool ∈ pools, ∀ id ∈ uncovered, pool.provides id = false := by
  rw [← best?_eq_none_iff]
  cases hbest : best? uncovered pools with
  | none => exact iff_of_true (choose_of_none hbest) rfl
  | some pool =>
      rw [choose_of_best? hbest]
      exact iff_of_false (List.cons_ne_nil _ _) (Option.some_ne_none _)

theorem mem_of_mem_choose {pool : PoolView} (h : pool ∈ choose pools uncovered) :
    pool ∈ pools := by
  induction pools, uncovered using choose.induct with
  | case1 pools uncovered first hfirst ih =>
      rw [choose_of_best? hfirst] at h
      rcases List.mem_cons.mp h with rfl | h
      · exact mem_of_best? hfirst
      · exact (mem_without_iff.mp (ih h)).1
  | case2 pools uncovered hnone =>
      rw [choose_of_none hnone] at h
      cases h

theorem nodup_ids_choose (pools : List PoolView) (uncovered : List String) :
    ((choose pools uncovered).map (·.id)).Nodup := by
  induction pools, uncovered using choose.induct with
  | case1 pools uncovered first hfirst ih =>
      rw [choose_of_best? hfirst, List.map_cons, List.nodup_cons]
      refine ⟨fun hmem => ?_, ih⟩
      obtain ⟨pool, hpool, heq⟩ := List.mem_map.mp hmem
      exact (mem_without_iff.mp (mem_of_mem_choose hpool)).2 heq
  | case2 pools uncovered hnone =>
      rw [choose_of_none hnone]
      exact List.nodup_nil

/-- Each pool is chosen for a product that no pool before it provides. -/
theorem exists_new_of_choose {before after : List PoolView} {pool : PoolView}
    (h : choose pools uncovered = before ++ pool :: after) :
    ∃ id ∈ uncovered, pool.provides id = true ∧ ∀ p ∈ before, p.provides id = false := by
  induction pools, uncovered using choose.induct generalizing before with
  | case1 pools uncovered first hfirst ih =>
      rw [choose_of_best? hfirst] at h
      cases before with
      | nil =>
          cases h
          obtain ⟨id, hid, hprovides⟩ := gain_pos_iff.mp (gain_pos_of_best? hfirst)
          exact ⟨id, hid, hprovides, by simp⟩
      | cons p before =>
          rw [List.cons_append] at h
          obtain ⟨rfl, htail⟩ := List.cons.inj h
          obtain ⟨id, hid, hprovides, hbefore⟩ := ih htail
          obtain ⟨hmem, hleft⟩ := mem_unprovided_iff.mp hid
          exact ⟨id, hmem, hprovides, List.forall_mem_cons.mpr ⟨hleft, hbefore⟩⟩
  | case2 pools uncovered hnone =>
      rw [choose_of_none hnone] at h
      simp at h

/-- Where the ids differ, what some pool provides is provided by a chosen one. A pool that is
passed over because its id is taken is then the very pool that was taken. -/
theorem provided_by_choose_iff (hids : (pools.map (·.id)).Nodup) {id : String}
    (hid : id ∈ uncovered) :
    (∃ pool ∈ choose pools uncovered, pool.provides id = true) ↔
      ∃ pool ∈ pools, pool.provides id = true := by
  refine ⟨fun ⟨pool, hpool, hprovides⟩ => ⟨pool, mem_of_mem_choose hpool, hprovides⟩, ?_⟩
  rintro ⟨pool, hpool, hprovides⟩
  induction pools, uncovered using choose.induct with
  | case1 pools uncovered first hfirst ih =>
      rw [choose_of_best? hfirst]
      cases hcovers : first.provides id with
      | true => exact ⟨first, List.mem_cons_self, hcovers⟩
      | false =>
          have hne : pool.id ≠ first.id := fun heq => by
            have hsame := List.inj_on_of_nodup_map hids hpool (mem_of_best? hfirst) heq
            rw [hsame, hcovers] at hprovides
            cases hprovides
          obtain ⟨p, hp, hcover⟩ := ih (hids.sublist (List.filter_sublist.map _))
            (mem_unprovided_iff.mpr ⟨hid, hcovers⟩) (mem_without_iff.mpr ⟨hpool, hne⟩)
          exact ⟨p, List.mem_cons_of_mem _ hp, hcover⟩
  | case2 pools uncovered hnone =>
      rw [best?_eq_none_iff.mp hnone pool hpool id hid] at hprovides
      cases hprovides

end Allotment.Native
