import Allotment.Proofs.Native.Coverage

/-!
# Leaving pools out

A pool that is not taken has no influence on a selection. So a selection stays as it is when pools
are left out that it did not take, and when pools are added that it could not take
(`select_of_fewer_pools`).
-/

namespace Allotment.Native

variable {pools fewer : List PoolView} {uncovered : List String} {pool : PoolView}

/-! ## Pools that provide nothing -/

theorem best?_filter {keep : PoolView → Bool}
    (h : ∀ pool ∈ pools, keep pool = false → ∀ id ∈ uncovered, pool.provides id = false) :
    best? uncovered (pools.filter keep) = best? uncovered pools := by
  rw [best?, best?, List.filter_filter]
  congr 1
  refine List.filter_congr fun pool hpool => ?_
  cases hkeep : keep pool with
  | true => rw [Bool.and_true]
  | false =>
      have hnone : ¬ 0 < gain uncovered pool := fun hgain => by
        obtain ⟨id, hid, hprovides⟩ := gain_pos_iff.mp hgain
        rw [h pool hpool hkeep id hid] at hprovides
        cases hprovides
      simp [hnone]

/-- Pools that provide none of the products can be left out. -/
theorem choose_filter {keep : PoolView → Bool}
    (h : ∀ pool ∈ pools, keep pool = false → ∀ id ∈ uncovered, pool.provides id = false) :
    choose (pools.filter keep) uncovered = choose pools uncovered := by
  induction pools, uncovered using choose.induct with
  | case1 pools uncovered first hfirst ih =>
      have hcomm : without first.id (pools.filter keep) = (without first.id pools).filter keep := by
        rw [without, without, List.filter_comm]
      rw [choose_of_best? hfirst, choose_of_best? ((best?_filter h).trans hfirst), hcomm, ih]
      intro pool hpool hkeep id hid
      exact h pool (mem_without_iff.mp hpool).1 hkeep id (mem_unprovided_iff.mp hid).1
  | case2 pools uncovered hnone =>
      rw [choose_of_none hnone, choose_of_none ((best?_filter h).trans hnone)]

/-- A pool that provides none of the products may stand anywhere. -/
theorem choose_insert {before behind : List PoolView}
    (h : ∀ id ∈ uncovered, pool.provides id = false) :
    choose (before ++ pool :: behind) uncovered = choose (before ++ behind) uncovered := by
  have hprovides (q : PoolView) (hq : decide (q ≠ pool) = false) :
      ∀ id ∈ uncovered, q.provides id = false := by
    have hsame : q = pool := by simpa using hq
    exact hsame ▸ h
  calc
    choose (before ++ pool :: behind) uncovered
      = choose ((before ++ pool :: behind).filter (· ≠ pool)) uncovered :=
        (choose_filter fun q _ => hprovides q).symm
    _ = choose ((before ++ behind).filter (· ≠ pool)) uncovered := by simp
    _ = choose (before ++ behind) uncovered := choose_filter fun q _ => hprovides q

/-! ## Pools that are not taken -/

/-- A part of a list in which an item stands once splits where the list splits. -/
theorem exists_split_of_sublist {α : Type} {as before behind : List α} {a : α}
    (hsub : as.Sublist (before ++ a :: behind)) (hnodup : (before ++ a :: behind).Nodup)
    (hmem : a ∈ as) :
    ∃ front back, as = front ++ a :: back ∧ front.Sublist before ∧ back.Sublist behind := by
  obtain ⟨front, rest, rfl, hfront, hrest⟩ := List.sublist_append_iff.mp hsub
  obtain ⟨-, hbehind, hapart⟩ := List.nodup_append.mp hnodup
  have hrestmem : a ∈ rest := by
    rcases List.mem_append.mp hmem with h | h
    · exact absurd rfl (hapart a (hfront.subset h) a List.mem_cons_self)
    · exact h
  rcases List.sublist_cons_iff.mp hrest with hlater | ⟨back, rfl, hback⟩
  · exact absurd (hlater.subset hrestmem) (List.nodup_cons.mp hbehind).1
  · exact ⟨front, back, rfl, hfront, hback⟩

/-- The best pool stays the best when others are left out. Those that stood before it were worse,
and those behind it are still behind it. -/
theorem best?_of_sublist (hsub : fewer.Sublist pools) (hnodup : pools.Nodup)
    (h : best? uncovered pools = some pool) (hmem : pool ∈ fewer) :
    best? uncovered fewer = some pool := by
  obtain ⟨hgain, before, behind, rfl, hbefore, hbehind⟩ := best?_eq_some_iff.mp h
  obtain ⟨front, back, rfl, hfront, hback⟩ := exists_split_of_sublist hsub hnodup hmem
  refine best?_eq_some_iff.mpr ⟨hgain, front, back, rfl, fun q hq => ?_, fun q hq => ?_⟩
  · exact hbefore q (hfront.subset hq)
  · exact hbehind q (hback.subset hq)

theorem choose_of_sublist (hsub : fewer.Sublist pools) (hnodup : pools.Nodup)
    (hkept : ∀ pool ∈ choose pools uncovered, pool ∈ fewer) :
    choose fewer uncovered = choose pools uncovered := by
  induction pools, uncovered using choose.induct generalizing fewer with
  | case1 pools uncovered first hfirst ih =>
      rw [choose_of_best? hfirst] at hkept ⊢
      obtain ⟨hmem, hrest⟩ := List.forall_mem_cons.mp hkept
      have hshorter : (without first.id fewer).Sublist (without first.id pools) := hsub.filter _
      rw [choose_of_best? (best?_of_sublist hsub hnodup hfirst hmem),
        ih hshorter (hnodup.filter _)]
      intro pool hpool
      exact mem_without_iff.mpr ⟨hrest pool hpool, (mem_without_iff.mp (mem_of_mem_choose hpool)).2⟩
  | case2 pools uncovered hnone =>
      have hstill : best? uncovered fewer = none :=
        best?_eq_none_iff.mpr fun pool hpool => best?_eq_none_iff.mp hnone pool (hsub.subset hpool)
      rw [choose_of_none hnone, choose_of_none hstill]

/-! ## Selections -/

variable {settings : NativeSettings} {s : SelectionSnapshot}

/-- A selection is known by the pools that are chosen: products and consumer being the same, so are
the quantities and the log. -/
theorem select_of_chosen_eq {others : List PoolView}
    (h : chosen settings { s with pools := others } = chosen settings s) :
    select settings { s with pools := others } = select settings s ∧
      selectLog settings { s with pools := others } = selectLog settings s := by
  have hselect : select settings { s with pools := others } = select settings s := by
    rw [select, select, h]
    rfl
  have hleft : leftUncovered settings { s with pools := others } = leftUncovered settings s := by
    rw [leftUncovered, leftUncovered, h]
    rfl
  refine ⟨hselect, ?_⟩
  rw [selectLog, selectLog, hselect, hleft]
  rfl

theorem chosen_of_sublist (hids : (s.pools.map (·.id)).Nodup) (hsub : fewer.Sublist s.pools)
    (hkept : ∀ pool ∈ s.pools, pool.id ∈ (select settings s).map (·.poolId) → pool ∈ fewer) :
    chosen settings { s with pools := fewer } = chosen settings s := by
  have hparts : (fewer.filter (isEligible s)).Sublist (eligible s) := hsub.filter _
  refine choose_of_sublist hparts (hids.of_map.filter _) fun pool hpool => ?_
  have hmem : pool ∈ eligible s := mem_of_mem_choose hpool
  have hselected : pool.id ∈ (select settings s).map (·.poolId) := by
    rw [poolIds_select]
    exact List.mem_map_of_mem hpool
  obtain ⟨hstands, heligible⟩ := List.mem_filter.mp hmem
  exact List.mem_filter.mpr ⟨hkept pool hstands hselected, heligible⟩

theorem chosen_insert {before behind : List PoolView} (hpools : s.pools = before ++ behind)
    (h : ¬ Eligible s pool ∨ ∀ id, IsTarget settings s id → pool.provides id = false) :
    chosen settings { s with pools := before ++ pool :: behind } = chosen settings s := by
  have hfull : chosen settings { s with pools := before ++ pool :: behind } =
      choose ((before ++ pool :: behind).filter (isEligible s)) (targets settings s) := rfl
  rw [hfull, chosen, eligible, hpools, List.filter_append, List.filter_append]
  by_cases heligible : Eligible s pool
  · rw [List.filter_cons_of_pos (isEligible_iff.mpr heligible)]
    refine choose_insert fun id hid => ?_
    exact (h.resolve_left (not_not_intro heligible)) id (mem_targets_iff.mp hid)
  · rw [List.filter_cons_of_neg fun hpool => heligible (isEligible_iff.mp hpool)]

/-- Let the ids of the pools differ. If only pools are left out that are not selected, the same is
selected, in the same order and quantities, and the same is logged. The same holds if a pool is put
in anywhere that is not eligible or provides no target. -/
theorem select_of_fewer_pools (settings : NativeSettings) (s : SelectionSnapshot)
    (hids : (s.pools.map (·.id)).Nodup) :
    (∀ fewer : List PoolView, fewer.Sublist s.pools →
      (∀ pool ∈ s.pools, pool.id ∈ (select settings s).map (·.poolId) → pool ∈ fewer) →
      select settings { s with pools := fewer } = select settings s ∧
        selectLog settings { s with pools := fewer } = selectLog settings s) ∧
    ∀ (before behind : List PoolView) (pool : PoolView), s.pools = before ++ behind →
      (¬ Eligible s pool ∨ ∀ id, IsTarget settings s id → pool.provides id = false) →
      select settings { s with pools := before ++ pool :: behind } = select settings s ∧
        selectLog settings { s with pools := before ++ pool :: behind } = selectLog settings s := by
  constructor
  · intro fewer hsub hkept
    exact select_of_chosen_eq (chosen_of_sublist hids hsub hkept)
  · intro before behind pool hpools hpool
    exact select_of_chosen_eq (chosen_insert hpools hpool)

/-- The pool that provides both targets is taken; after it the other one is of no use. -/
theorem chosen_overlapping :
    chosen .default overlapping = [.of (yearly "right" (-1) ["db", "web"])] := by
  have hfirst : best? (targets .default overlapping) (eligible overlapping) =
      some (.of (yearly "right" (-1) ["db", "web"])) := by decide
  have hlast : best? ["cache"] [.of (yearly "left" 5 ["web", "os"])] = none := by decide
  rw [chosen, choose_of_best? hfirst]
  exact congrArg _ (choose_of_none hlast)

/-- The pool that is used up and the one that was of no use are left out. -/
theorem select_of_fewer_pools_overlapping :
    let fewer := [PoolView.of (yearly "right" (-1) ["db", "web"])]
    (overlapping.pools.map (·.id)).Nodup ∧ fewer.Sublist overlapping.pools ∧
      (∀ pool ∈ overlapping.pools,
        pool.id ∈ (select .default overlapping).map (·.poolId) → pool ∈ fewer) ∧
      select .default { overlapping with pools := fewer } = [⟨"right", 1⟩] ∧
      selectLog .default { overlapping with pools := fewer } = selectLog .default overlapping := by
  intro fewer
  have hids : (overlapping.pools.map (·.id)).Nodup := by decide
  have hsub : fewer.Sublist overlapping.pools := by decide
  have hkept : ∀ pool ∈ overlapping.pools,
      pool.id ∈ (select .default overlapping).map (·.poolId) → pool ∈ fewer := by
    rw [poolIds_select, chosen_overlapping]
    decide
  have hright : select .default overlapping = [⟨"right", 1⟩] := by
    rw [select, chosen_overlapping]
    decide
  obtain ⟨hselect, hlog⟩ := (select_of_fewer_pools .default overlapping hids).1 fewer hsub hkept
  exact ⟨hids, hsub, hkept, hselect.trans hright, hlog⟩

end Allotment.Native
