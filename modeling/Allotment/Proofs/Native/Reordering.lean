import Allotment.Proofs.Native.Removal

/-!
# The order of products and pools

A selection looks at the products to be covered as a set: only their number decides on a pool. The
order of the pools decides only where two of them provide as much and end in the same instant. So the
same is selected for the same products in any order, and from the same pools in any order if no two
eligible ones end together (`select_of_reordered`).
-/

namespace Allotment.Native

variable {pools others : List PoolView} {uncovered products : List String} {pool : PoolView}

/-! ## Products -/

theorem best?_perm_products (h : uncovered.Perm products) (pools : List PoolView) :
    best? uncovered pools = best? products pools := by
  have hgain : gain uncovered = gain products := funext fun pool => h.countP_eq pool.provides
  have hbetter : isBetter uncovered = isBetter products := by
    unfold isBetter
    rw [hgain]
  rw [best?, best?, hbetter, hgain]

theorem choose_perm_products (h : uncovered.Perm products) (pools : List PoolView) :
    choose pools uncovered = choose pools products := by
  induction pools, uncovered using choose.induct generalizing products with
  | case1 pools uncovered first hfirst ih =>
      have hsame : best? products pools = some first := by
        rw [← best?_perm_products h pools, hfirst]
      have hleft : (unprovided first uncovered).Perm (unprovided first products) := h.filter _
      rw [choose_of_best? hfirst, choose_of_best? hsame, ih hleft]
  | case2 pools uncovered hnone =>
      have hsame : best? products pools = none := by
        rw [← best?_perm_products h pools, hnone]
      rw [choose_of_none hnone, choose_of_none hsame]

/-! ## Pools -/

/-- The pools end in different instants. -/
def EndApart (pools : List PoolView) : Prop :=
  pools.Pairwise fun p q => p.endDate.instant ≠ q.endDate.instant

instance (pools : List PoolView) : Decidable (EndApart pools) :=
  inferInstanceAs (Decidable (pools.Pairwise _))

namespace EndApart

theorem perm (h : EndApart pools) (hperm : pools.Perm others) : EndApart others :=
  (hperm.pairwise_iff fun hne => hne.symm).mp h

theorem eq_of_instant (h : EndApart pools) {p q : PoolView} (hp : p ∈ pools) (hq : q ∈ pools)
    (hinstant : p.endDate.instant = q.endDate.instant) : p = q := by
  have hnodup : (pools.map (·.endDate.instant)).Nodup := List.pairwise_map.mpr h
  exact List.inj_on_of_nodup_map hnodup hp hq hinstant

/-- Where no two pools end together, the best one is better than all others. -/
theorem best?_eq_some_iff (h : EndApart pools) :
    best? uncovered pools = some pool ↔
      pool ∈ pools ∧ 0 < gain uncovered pool ∧
        ∀ q ∈ pools, 0 < gain uncovered q → q ≠ pool → isBetter uncovered pool q = true := by
  constructor
  · intro hbest
    refine ⟨mem_of_best? hbest, gain_pos_of_best? hbest, fun q hq hgain hne => ?_⟩
    have hinstant : q.endDate.instant ≠ pool.endDate.instant := fun heq =>
      hne (h.eq_of_instant hq (mem_of_best? hbest) heq)
    -- The other one provides less or ends no sooner, and it does not end in the same instant.
    have hworse := isBetter_eq_false_iff.mp (not_isBetter_of_best? hbest hq hgain)
    rw [isBetter_eq_true_iff]
    omega
  · rintro ⟨hmem, hgain, hbetter⟩
    cases hbest : best? uncovered pools with
    | none =>
        obtain ⟨id, hid, hprovides⟩ := gain_pos_iff.mp hgain
        rw [best?_eq_none_iff.mp hbest pool hmem id hid] at hprovides
        cases hprovides
    | some first =>
        by_contra hne
        have hfirst : first ≠ pool := fun heq => hne (congrArg some heq)
        have hwins := hbetter first (mem_of_best? hbest) (gain_pos_of_best? hbest) hfirst
        rw [not_isBetter_of_best? hbest hmem hgain] at hwins
        cases hwins

theorem best?_perm (h : EndApart pools) (hperm : pools.Perm others) :
    best? uncovered pools = best? uncovered others := by
  ext pool
  rw [h.best?_eq_some_iff, (h.perm hperm).best?_eq_some_iff]
  simp only [hperm.mem_iff]

theorem choose_perm (h : EndApart pools) (hperm : pools.Perm others) :
    choose pools uncovered = choose others uncovered := by
  induction pools, uncovered using choose.induct generalizing others with
  | case1 pools uncovered first hfirst ih =>
      have hsame : best? uncovered others = some first := by
        rw [← h.best?_perm hperm, hfirst]
      have hrest : EndApart (without first.id pools) := h.filter _
      have hleft : (without first.id pools).Perm (without first.id others) := hperm.filter _
      rw [choose_of_best? hfirst, choose_of_best? hsame, ih hrest hleft]
  | case2 pools uncovered hnone =>
      have hsame : best? uncovered others = none := by
        rw [← h.best?_perm hperm, hnone]
      rw [choose_of_none hnone, choose_of_none hsame]

end EndApart

/-! ## Selections -/

variable {settings : NativeSettings} {s : SelectionSnapshot}

/-- The products to be covered are known up to their order by the installed ids. -/
theorem targets_perm {installed : List ProductView}
    (h : ∀ id, id ∈ installed.map (·.id) ↔ id ∈ s.products.map (·.id)) :
    (targets settings { s with products := installed }).Perm (targets settings s) := by
  have hnodup := (targets_inFirstOrder settings { s with products := installed }).nodup
  rw [List.perm_ext_iff_of_nodup hnodup (targets_inFirstOrder settings s).nodup]
  intro id
  rw [mem_targets_iff, mem_targets_iff, IsTarget, IsTarget, h]

/-- The same is selected if other products of the same ids are installed, in whatever order and
however often each. If no two eligible pools end in the same instant, the same is also selected, and
the same is logged, when the pools are put in another order. -/
theorem select_of_reordered (settings : NativeSettings) (s : SelectionSnapshot) :
    (∀ installed : List ProductView,
      (∀ id, id ∈ installed.map (·.id) ↔ id ∈ s.products.map (·.id)) →
      select settings { s with products := installed } = select settings s) ∧
    (EndApart (eligible s) → ∀ others : List PoolView, others.Perm s.pools →
      select settings { s with pools := others } = select settings s ∧
        selectLog settings { s with pools := others } = selectLog settings s) := by
  constructor
  · intro installed hids
    have hchosen : chosen settings { s with products := installed } = chosen settings s :=
      choose_perm_products (targets_perm hids) (eligible s)
    rw [select, select, hchosen]
    rfl
  · intro hapart others hperm
    have heligible : (eligible s).Perm (others.filter (isEligible s)) := (hperm.filter _).symm
    exact select_of_chosen_eq (hapart.choose_perm heligible).symm

/-- A pool that ends with the year 2026. -/
def late : Pool := yearly "late" 5 ["web"]

/-- A pool that ends on the same day by its own clock and an hour earlier, as its clock is ahead. -/
def early : Pool :=
  { late with
    id := "early"
    endDate := { late.endDate with offset := 60, offset_gt := by decide, offset_lt := by decide } }

/-- Two pools for a product, beside a product that is covered already. -/
def hourApart : SelectionSnapshot :=
  { overlapping with pools := [.of late, .of early], products := ["web", "os"].map .placeholder }

theorem select_of_reordered_hourApart :
    let doubled := ["os", "web", "os"].map ProductView.placeholder
    (∀ id, id ∈ doubled.map (·.id) ↔ id ∈ hourApart.products.map (·.id)) ∧
      EndApart (eligible hourApart) ∧ hourApart.pools.reverse.Perm hourApart.pools ∧
      select .default { hourApart with products := doubled } = [⟨"early", 1⟩] ∧
      select .default { hourApart with pools := hourApart.pools.reverse } = [⟨"early", 1⟩] := by
  intro doubled
  have hids : ∀ id, id ∈ doubled.map (·.id) ↔ id ∈ hourApart.products.map (·.id) := by
    simp [doubled, hourApart, ProductView.placeholder, or_comm]
  have hapart : EndApart (eligible hourApart) := by decide
  have hperm : hourApart.pools.reverse.Perm hourApart.pools := List.reverse_perm _
  have hfirst : best? (targets .default hourApart) (eligible hourApart) = some (.of early) := by
    decide
  have hlast : best? [] [.of late] = none := by decide
  have hchosen : chosen .default hourApart = [.of early] := by
    rw [chosen, choose_of_best? hfirst]
    exact congrArg _ (choose_of_none hlast)
  have hselect : select .default hourApart = [⟨"early", 1⟩] := by
    rw [select, hchosen]
    decide
  obtain ⟨hproducts, hpools⟩ := select_of_reordered .default hourApart
  exact ⟨hids, hapart, hperm, (hproducts doubled hids).trans hselect,
    (hpools hapart _ hperm).1.trans hselect⟩

end Allotment.Native
