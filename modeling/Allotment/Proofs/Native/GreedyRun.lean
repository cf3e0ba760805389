import Allotment.Proofs.Native.Coverage
import Mathlib.Data.Set.Card

/-!
# The greedy run

What a selection does, said without its recursion. At each step a pool is taken that provides the
most targets which no pool before it provides, of several such pools the one that ends first, and of
those the one that stands first (`IsNext`). The run ends when no pool can be taken any more. A
selection is such a run (`select_greedy`), whatever the pools are, also where their ids repeat.
-/

namespace Allotment.Native

/-- The number of targets that the pool provides and the earlier pools do not. -/
noncomputable def newlyProvided (settings : NativeSettings) (s : SelectionSnapshot)
    (earlier : List PoolView) (pool : PoolView) : ℕ :=
  Set.ncard {id | IsTarget settings s id ∧ (∀ p ∈ earlier, p.provides id = false) ∧
    pool.provides id = true}

/-- After the earlier pools the pool can be taken. -/
structure Takeable (settings : NativeSettings) (s : SelectionSnapshot) (earlier : List PoolView)
    (pool : PoolView) : Prop where
  eligible : Eligible s pool
  unused : ∀ p ∈ earlier, p.id ≠ pool.id
  provides : 0 < newlyProvided settings s earlier pool

/-- After the earlier pools, the pool at this place among all pools is to be taken: it can be taken,
and of the pools that can be taken none newly provides more, none that newly provides as much ends
before it, and none that also ends in the same instant stands before it. -/
structure IsNext (settings : NativeSettings) (s : SelectionSnapshot) (earlier : List PoolView)
    (place : ℕ) (pool : PoolView) : Prop where
  stands : s.pools[place]? = some pool
  takeable : Takeable settings s earlier pool
  first : ∀ other q, s.pools[other]? = some q → Takeable settings s earlier q →
    newlyProvided settings s earlier q < newlyProvided settings s earlier pool ∨
      newlyProvided settings s earlier q = newlyProvided settings s earlier pool ∧
        (pool.endDate.instant < q.endDate.instant ∨
          pool.endDate.instant = q.endDate.instant ∧ place ≤ other)

/-- A run from the earlier pools on: the pools that are taken, with their places, until none can be
taken. -/
inductive GreedyRun (settings : NativeSettings) (s : SelectionSnapshot) :
    List PoolView → List (ℕ × PoolView) → Prop
  | ended {earlier : List PoolView} :
      (∀ pool ∈ s.pools, ¬ Takeable settings s earlier pool) → GreedyRun settings s earlier []
  | taken {earlier : List PoolView} {place : ℕ} {pool : PoolView} {rest : List (ℕ × PoolView)} :
      IsNext settings s earlier place pool → GreedyRun settings s (earlier ++ [pool]) rest →
      GreedyRun settings s earlier ((place, pool) :: rest)

variable {settings : NativeSettings} {s : SelectionSnapshot} {earlier pools : List PoolView}
  {uncovered : List String} {pool : PoolView}

/-! ## One step -/

/-- The pools and products that are left after the earlier pools: the eligible pools of other ids,
and the targets that none of the earlier pools provides. -/
structure LeftAfter (settings : NativeSettings) (s : SelectionSnapshot)
    (earlier pools : List PoolView) (uncovered : List String) : Prop where
  pools_eq : pools = s.pools.filter fun pool => isEligible s pool && earlier.all (·.id != pool.id)
  nodup : uncovered.Nodup
  mem_uncovered_iff : ∀ id, id ∈ uncovered ↔
    IsTarget settings s id ∧ ∀ p ∈ earlier, p.provides id = false

namespace LeftAfter

theorem start (settings : NativeSettings) (s : SelectionSnapshot) :
    LeftAfter settings s [] (eligible s) (targets settings s) where
  pools_eq := by simp [eligible]
  nodup := (targets_inFirstOrder settings s).nodup
  mem_uncovered_iff id := by simp [mem_targets_iff]

theorem take (h : LeftAfter settings s earlier pools uncovered) (pool : PoolView) :
    LeftAfter settings s (earlier ++ [pool]) (without pool.id pools)
      (unprovided pool uncovered) where
  pools_eq := by
    rw [h.pools_eq, without, List.filter_filter]
    refine List.filter_congr fun q _ => ?_
    rw [List.all_append, Bool.and_comm, Bool.and_assoc]
    simp [bne_comm]
  nodup := h.nodup.filter _
  mem_uncovered_iff id := by
    simp [mem_unprovided_iff, h.mem_uncovered_iff, or_imp, forall_and, and_assoc]

theorem gain_eq (h : LeftAfter settings s earlier pools uncovered) (pool : PoolView) :
    gain uncovered pool = newlyProvided settings s earlier pool := by
  have hset : {id | IsTarget settings s id ∧ (∀ p ∈ earlier, p.provides id = false) ∧
      pool.provides id = true} = ↑(uncovered.filter pool.provides).toFinset := by
    ext id
    simp [h.mem_uncovered_iff, and_assoc]
  rw [newlyProvided, hset, Set.ncard_coe_finset, List.toFinset_card_of_nodup (h.nodup.filter _),
    gain, List.countP_eq_length_filter]

theorem takeable_iff (h : LeftAfter settings s earlier pools uncovered) :
    pool ∈ s.pools ∧ Takeable settings s earlier pool ↔
      pool ∈ pools ∧ 0 < gain uncovered pool := by
  have hleft : (isEligible s pool && earlier.all (·.id != pool.id)) = true ↔
      Eligible s pool ∧ ∀ p ∈ earlier, p.id ≠ pool.id := by
    simp [isEligible_iff]
  rw [h.pools_eq, List.mem_filter, hleft, h.gain_eq]
  constructor
  · rintro ⟨hmem, htakeable⟩
    exact ⟨⟨hmem, htakeable.eligible, htakeable.unused⟩, htakeable.provides⟩
  · rintro ⟨⟨hmem, heligible, hunused⟩, hprovides⟩
    exact ⟨hmem, heligible, hunused, hprovides⟩

/-- The best of the pools that are left is the next one. Where it stands among these, it stands
among all pools: the pools that are not left cannot be taken. -/
theorem exists_isNext (h : LeftAfter settings s earlier pools uncovered)
    (hbest : best? uncovered pools = some pool) :
    ∃ place, IsNext settings s earlier place pool := by
  obtain ⟨hgain, before, behind, hsplit, hbefore, hbehind⟩ := best?_eq_some_iff.mp hbest
  obtain ⟨front, back, hpools, hfront, hback⟩ :=
    exists_split_of_filter_eq (h.pools_eq.symm.trans hsplit)
  have htakeable := (h.takeable_iff.mpr ⟨mem_of_best? hbest, hgain⟩).2
  refine ⟨front.length, by simp [hpools], htakeable, fun other q hq hother => ?_⟩
  have hpos : 0 < gain uncovered q :=
    (h.takeable_iff.mp ⟨List.mem_of_getElem? hq, hother⟩).2
  have hleft : (isEligible s q && earlier.all (·.id != q.id)) = true := by
    simpa [isEligible_iff] using ⟨hother.eligible, hother.unused⟩
  rw [← h.gain_eq, ← h.gain_eq]
  -- A pool that can be taken is left, so it stands among those before or behind the best one.
  rcases Nat.lt_trichotomy other front.length with hlt | heq | hgt
  · have hmem : q ∈ front := by
      rw [hpools, List.getElem?_append_left hlt] at hq
      exact List.mem_of_getElem? hq
    have hbetter := hbefore q (hfront ▸ List.mem_filter.mpr ⟨hmem, hleft⟩) hpos
    exact (isBetter_eq_true_iff.mp hbetter).imp_right fun htie => ⟨htie.1.symm, .inl htie.2⟩
  · have hsame : q = pool := by
      simpa [hpools, heq] using hq.symm
    rw [hsame]
    exact .inr ⟨rfl, .inr ⟨rfl, Nat.le_of_eq heq.symm⟩⟩
  · have hmem : q ∈ back := by
      rw [hpools, List.getElem?_append_right (Nat.le_of_lt hgt)] at hq
      obtain ⟨n, hn⟩ := Nat.exists_eq_succ_of_ne_zero (Nat.sub_ne_zero_of_lt hgt)
      rw [hn, List.getElem?_cons_succ] at hq
      exact List.mem_of_getElem? hq
    have hworse := hbehind q (hback ▸ List.mem_filter.mpr ⟨hmem, hleft⟩) hpos
    rcases isBetter_eq_false_iff.mp hworse with hless | ⟨htie, hle⟩
    · exact .inl hless
    · rcases Int.lt_or_eq_of_le hle with hearlier | hsame
      · exact .inr ⟨htie, .inl hearlier⟩
      · exact .inr ⟨htie, .inr ⟨hsame, Nat.le_of_lt hgt⟩⟩

theorem ended (h : LeftAfter settings s earlier pools uncovered)
    (hnone : best? uncovered pools = none) :
    ∀ pool ∈ s.pools, ¬ Takeable settings s earlier pool := by
  intro pool hmem htakeable
  obtain ⟨hleft, hgain⟩ := h.takeable_iff.mp ⟨hmem, htakeable⟩
  obtain ⟨id, hid, hprovides⟩ := gain_pos_iff.mp hgain
  rw [best?_eq_none_iff.mp hnone pool hleft id hid] at hprovides
  cases hprovides

/-- What is chosen of the pools that are left is a run from there on. -/
theorem exists_run (h : LeftAfter settings s earlier pools uncovered) :
    ∃ run, GreedyRun settings s earlier run ∧ run.map (·.2) = choose pools uncovered := by
  induction pools, uncovered using choose.induct generalizing earlier with
  | case1 pools uncovered first hfirst ih =>
      obtain ⟨place, hnext⟩ := h.exists_isNext hfirst
      obtain ⟨run, hrun, hchosen⟩ := ih (h.take first)
      refine ⟨(place, first) :: run, .taken hnext hrun, ?_⟩
      rw [choose_of_best? hfirst, List.map_cons, hchosen]
  | case2 pools uncovered hnone =>
      exact ⟨[], .ended (h.ended hnone), by rw [choose_of_none hnone, List.map_nil]⟩

end LeftAfter

/-! ## Whole runs -/

/-- The more pools were taken before, the less a pool newly provides. -/
theorem newlyProvided_append_le (later : List PoolView) :
    newlyProvided settings s (earlier ++ later) pool ≤ newlyProvided settings s earlier pool := by
  have hfinite : {id | IsTarget settings s id ∧ (∀ p ∈ earlier, p.provides id = false) ∧
      pool.provides id = true}.Finite := by
    refine Set.Finite.subset (targets settings s).toFinset.finite_toSet fun id hid => ?_
    simpa [mem_targets_iff] using hid.1
  refine Set.ncard_le_ncard (fun id hid => ?_) hfinite
  obtain ⟨htarget, hopen, hprovides⟩ := hid
  exact ⟨htarget, fun p hp => hopen p (List.mem_append_left later hp), hprovides⟩

/-- What can be taken later could be taken before. -/
theorem Takeable.of_append {later : List PoolView}
    (h : Takeable settings s (earlier ++ later) pool) : Takeable settings s earlier pool where
  eligible := h.eligible
  unused p hp := h.unused p (List.mem_append_left later hp)
  provides := Nat.lt_of_lt_of_le h.provides (newlyProvided_append_le later)

namespace GreedyRun

variable {run : List (ℕ × PoolView)}

theorem isNext (h : GreedyRun settings s earlier run) {k : ℕ} {place : ℕ}
    (hk : run[k]? = some (place, pool)) :
    IsNext settings s (earlier ++ (run.take k).map (·.2)) place pool := by
  induction h generalizing k with
  | ended => simp at hk
  | taken hnext _ ih =>
      cases k with
      | zero =>
          rw [List.getElem?_cons_zero, Option.some.injEq] at hk
          cases hk
          simpa using hnext
      | succ k => simpa using ih hk

theorem not_takeable (h : GreedyRun settings s earlier run) :
    ∀ pool ∈ s.pools, ¬ Takeable settings s (earlier ++ run.map (·.2)) pool := by
  induction h with
  | ended hnone => simpa using hnone
  | taken _ _ ih => simpa using ih

/-- A pool that is taken later could have been taken before, so it does not provide more. -/
theorem newlyProvided_le (h : GreedyRun settings s earlier run) {k l place later : ℕ}
    {p q : PoolView} (hkl : k ≤ l) (hk : run[k]? = some (place, p))
    (hl : run[l]? = some (later, q)) :
    newlyProvided settings s (earlier ++ (run.take l).map (·.2)) q ≤
      newlyProvided settings s (earlier ++ (run.take k).map (·.2)) p := by
  obtain ⟨between, hbetween⟩ : ∃ between,
      earlier ++ (run.take l).map (·.2) = earlier ++ (run.take k).map (·.2) ++ between := by
    obtain ⟨rest, hrest⟩ := (List.take_prefix_take_left hkl : run.take k <+: run.take l)
    exact ⟨rest.map (·.2), by rw [← hrest, List.map_append, List.append_assoc]⟩
  have hlast := h.isNext hl
  rw [hbetween] at hlast ⊢
  -- The later pool was at hand at the earlier step, and another one was preferred to it.
  have hfirst := (h.isNext hk).first later q hlast.stands hlast.takeable.of_append
  have hless : newlyProvided settings s (earlier ++ (run.take k).map (·.2) ++ between) q ≤
      newlyProvided settings s (earlier ++ (run.take k).map (·.2)) q :=
    newlyProvided_append_le between
  omega

end GreedyRun

theorem length_choose_le_uncovered (pools : List PoolView) (uncovered : List String) :
    (choose pools uncovered).length ≤ uncovered.length := by
  induction pools, uncovered using choose.induct with
  | case1 pools uncovered first hfirst ih =>
      obtain ⟨id, hid, hprovides⟩ := gain_pos_iff.mp (gain_pos_of_best? hfirst)
      have hless : (unprovided first uncovered).length < uncovered.length :=
        List.length_filter_lt_length_iff_exists.mpr ⟨id, hid, by simp [hprovides]⟩
      rw [choose_of_best? hfirst, List.length_cons]
      omega
  | case2 pools uncovered hnone => simp [choose_of_none hnone]

theorem length_targets (settings : NativeSettings) (s : SelectionSnapshot) :
    (targets settings s).length = Set.ncard {id | IsTarget settings s id} := by
  have hset : {id | IsTarget settings s id} = ↑(targets settings s).toFinset := by
    ext id
    simp [mem_targets_iff]
  rw [hset, Set.ncard_coe_finset,
    List.toFinset_card_of_nodup (targets_inFirstOrder settings s).nodup]

/-- A selection is a greedy run: each pool is the next one after those before it, and after the last
one no pool can be taken. Along the run the pools newly provide less and less, and there are no more
of them than targets. -/
theorem select_greedy (settings : NativeSettings) (s : SelectionSnapshot) :
    ∃ run : List (ℕ × PoolView),
      select settings s = run.map (fun taken => selectionFor s taken.2) ∧
      (∀ k place pool, run[k]? = some (place, pool) →
        IsNext settings s ((run.take k).map (·.2)) place pool) ∧
      (∀ pool ∈ s.pools, ¬ Takeable settings s (run.map (·.2)) pool) ∧
      (∀ k l first later, k ≤ l → run[k]? = some first → run[l]? = some later →
        newlyProvided settings s ((run.take l).map (·.2)) later.2 ≤
          newlyProvided settings s ((run.take k).map (·.2)) first.2) ∧
      (select settings s).length ≤ Set.ncard {id | IsTarget settings s id} := by
  obtain ⟨run, hrun, hchosen⟩ := (LeftAfter.start settings s).exists_run
  refine ⟨run, ?_, fun k place pool hk => ?_, ?_, fun k l first later hkl hk hl => ?_, ?_⟩
  · rw [select, chosen, ← hchosen, List.map_map]
    rfl
  · exact hrun.isNext hk
  · exact hrun.not_takeable
  · exact hrun.newlyProvided_le hkl hk hl
  · rw [select, List.length_map, chosen, ← length_targets]
    exact length_choose_le_uncovered _ _

end Allotment.Native
