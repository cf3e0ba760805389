import Allotment.Policy.Native
import Allotment.Proofs.Binding.Outcome
import Allotment.Proofs.Native.Coverage
import Allotment.Proofs.Native.Quantity
import Allotment.Proofs.Validation.Findings

/-!
# Bindings by the native policy

The native policy selects among views of the candidates, by id, and in amounts; a binding turns
the selections back into draws of pools. Where the ids of the pools differ nothing is lost on the
way (`draws_of_native`), so what holds of the chosen views holds of the draws, and the validation
finds neither their quantities nor their architectures wanting (`run_native_sound`).
-/

namespace Allotment

theorem ContentFilter.candidates_sublist (filter : ContentFilter) (consumer : Consumer)
    (pools : List Pool) : (filter.candidates consumer pools).Sublist pools := by
  unfold candidates
  split
  · exact List.filter_sublist
  · exact List.Sublist.refl pools

namespace Binding

variable {candidates : List Pool}

/-- Where the ids of the candidates differ, an id stands for the one that bears it. -/
theorem meant?_id (hids : (candidates.map (·.id)).Nodup) {pool : Pool}
    (hpool : pool ∈ candidates) : meant? candidates pool.id = some pool := by
  obtain ⟨other, hother⟩ := Option.isSome_iff_exists.mp
    (isSome_meant?_iff.mpr ⟨pool, hpool, rfl⟩)
  rw [hother]
  rw [meant?] at hother
  have hmem : other ∈ candidates := List.mem_reverse.mp (List.mem_of_find?_eq_some hother)
  have hid : other.id = pool.id := by simpa using List.find?_some hother
  rw [List.inj_on_of_nodup_map hids hmem hpool hid]

/-- Views of candidates are the views of a list of candidates. -/
theorem exists_pools_of_views {views : List PoolView}
    (h : ∀ view ∈ views, view ∈ candidates.map PoolView.of) :
    ∃ pools : List Pool, (∀ pool ∈ pools, pool ∈ candidates) ∧ pools.map PoolView.of = views := by
  induction views with
  | nil => exact ⟨[], by simp, rfl⟩
  | cons view views ih =>
      obtain ⟨hview, hviews⟩ := List.forall_mem_cons.mp h
      obtain ⟨pool, hpool, rfl⟩ := List.mem_map.mp hview
      obtain ⟨pools, hpools, rfl⟩ := ih hviews
      exact ⟨pool :: pools, List.forall_mem_cons.mpr ⟨hpool, hpools⟩, rfl⟩

theorem takings_selectionFor (hids : (candidates.map (·.id)).Nodup) (s : SelectionSnapshot)
    {pools : List Pool} (hpools : ∀ pool ∈ pools, pool ∈ candidates) :
    takings (byId candidates) ((pools.map PoolView.of).map (Native.selectionFor s)) =
      pools.map fun pool => (pool, (Native.quantityFor s.consumer (.of pool)).val) := by
  rw [takings_byId, List.map_map, List.filterMap_map, ← List.filterMap_eq_map]
  refine List.filterMap_congr fun pool hpool => ?_
  have hmeant := meant?_id hids (hpools pool hpool)
  simp only [Function.comp_apply, Native.selectionFor, PoolView.of] at hmeant ⊢
  rw [hmeant]
  rfl

variable {b : Binding} {filter : ContentFilter} {settings : NativeSettings} {draws : List Draw}

theorem result_native (h : filter.candidates b.consumer b.pools ≠ []) :
    (b.run filter (Native.evaluator settings)).result =
      resolve b.productIds (filter.candidates b.consumer b.pools)
        (some (Native.select settings (b.snapshot (filter.candidates b.consumer b.pools)))) := by
  rw [run_of_candidates h, Native.evaluator, if_pos rfl]
  rfl

/-- What the native policy chooses is drawn, pool by pool, and each pool in the quantity that the
policy has computed from its view. -/
theorem draws_of_native (hids : (b.pools.map (·.id)).Nodup)
    (hrun : (b.run filter (Native.evaluator settings)).result = .ok draws) :
    let candidates := filter.candidates b.consumer b.pools
    let s := b.snapshot candidates
    draws ≠ [] ∧ (draws.map fun draw => PoolView.of draw.pool) = Native.chosen settings s ∧
      ∀ draw ∈ draws, draw.pool ∈ candidates ∧
        (draw.quantity.toNat : Int) = (Native.quantityFor s.consumer (.of draw.pool)).val := by
  intro candidates s
  have hcandidates : candidates ≠ [] := by
    intro hnone
    rw [run_of_no_candidate hnone] at hrun
    cases hrun
  have hresolve : resolve b.productIds candidates (some (Native.select settings s)) = .ok draws :=
    (result_native hcandidates).symm.trans hrun
  have hselect : Native.select settings s ≠ [] := by
    intro hnone
    rw [hnone] at hresolve
    cases hresolve
  rcases resolve_cases b.productIds candidates hselect with
    ⟨-, hinvalid⟩ | ⟨-, -, hempty⟩ | ⟨-, hsome, taken, htaken, htakings⟩
  · exact absurd hinvalid (not_failsAs_of_ok hresolve _)
  · exact absurd hempty (not_failsAs_of_ok hresolve _)
  · cases hresolve.symm.trans htaken
    -- The policy knows views only, so the pools behind the chosen ones are found first.
    have hviews : ∀ view ∈ Native.chosen settings s, view ∈ candidates.map PoolView.of :=
      fun view hview => (Native.mem_chosen hview).1
    obtain ⟨pools, hpools, hchosen⟩ := exists_pools_of_views hviews
    have hids' : (candidates.map (·.id)).Nodup :=
      hids.sublist ((filter.candidates_sublist b.consumer b.pools).map _)
    have hdraws : draws.map Draw.taken =
        pools.map fun pool => (pool, (Native.quantityFor s.consumer (.of pool)).val) := by
      rw [htakings, Native.select, ← hchosen, takings_selectionFor hids' s hpools]
    obtain rfl : draws.map (·.pool) = pools := by
      simpa [Function.comp_def, Draw.taken] using congrArg (List.map Prod.fst) hdraws
    refine ⟨?_, ?_, fun draw hdraw => ⟨hpools _ (List.mem_map_of_mem hdraw), ?_⟩⟩
    · rintro rfl
      exact hsome htakings.symm
    · rw [← hchosen, List.map_map]
      rfl
    · rw [List.map_map, List.map_inj_left] at hdraws
      exact congrArg Prod.snd (hdraws draw hdraw)

/-- What the native policy takes of an eligible pool passes the two rules that look at the same
things as the policy. -/
theorem unobjected_of_eligible {draw : Draw}
    (heligible : Native.Eligible (b.snapshot candidates) (.of draw.pool))
    (hquantity : (draw.quantity.toNat : Int) =
      (Native.quantityFor (b.snapshot candidates).consumer (.of draw.pool)).val) :
    let request : Request := ⟨b.consumer, draw.pool, draw.quantity⟩
    request.check .quantityAvailable = none ∧ request.check .architectureMismatch = none := by
  constructor
  · refine (Request.checkQuantity_eq_none_iff draw.positive).mpr fun available havailable => ?_
    have hne : available ≠ 0 := by
      rintro rfl
      exact heligible.available havailable
    rw [hquantity]
    exact Native.quantityFor_le havailable hne
  · exact (Request.checkArchitecture_eq_none_iff b.serviceLevelOverride).mpr
      (.inr heligible.architecture)

/-- If the ids of the pools differ, a binding by the native policy that succeeds has draws, of
different pools. Each is of a candidate that suits the consumer and that provides an installed
product which is not skipped and which no draw before provides, and it is of at least one unit.
Whoever asks, the validation has nothing to say of its quantity or its architecture. -/
theorem run_native_sound (b : Binding) (filter : ContentFilter) (settings : NativeSettings)
    (draws : List Draw) (hids : (b.pools.map (·.id)).Nodup)
    (hrun : (b.run filter (Native.evaluator settings)).result = .ok draws) :
    let candidates := filter.candidates b.consumer b.pools
    let s := b.snapshot candidates
    draws ≠ [] ∧ (draws.map (·.pool.id)).Nodup ∧
      ∀ before draw after, draws = before ++ draw :: after →
        draw.pool ∈ b.pools ∧ draw.pool ∈ candidates ∧
        Native.serviceLevelMatches s (.of draw.pool) = true ∧
        Native.architectureMatches s.consumer (.of draw.pool) s.separator = true ∧
        (∃ id ∈ b.productIds,
          ¬ (settings.skipCoveredProducts = true ∧ b.compliance.isCovered id = true) ∧
          draw.pool.provides id = true ∧ ∀ earlier ∈ before, earlier.pool.provides id = false) ∧
        1 ≤ draw.quantity.toNat ∧
        ∀ caller,
          ∀ notice ∈ (Request.validate ⟨b.consumer, draw.pool, draw.quantity⟩ caller).notices,
          ∀ severity : Severity,
            notice.key ≠ Rule.quantityAvailable.resourceKey severity.leader ∧
            notice.key ≠ Rule.architectureMismatch.resourceKey severity.leader := by
  intro candidates s
  obtain ⟨hne, hchosen, hdraws⟩ := draws_of_native hids hrun
  refine ⟨hne, ?_, ?_⟩
  · have hnodup := Native.nodup_ids_choose (Native.eligible s) (Native.targets settings s)
    rw [← Native.chosen, ← hchosen, List.map_map] at hnodup
    exact hnodup
  · rintro before draw after rfl
    have hdraw : draw ∈ before ++ draw :: after := by simp
    obtain ⟨hcandidate, hquantity⟩ := hdraws draw hdraw
    have heligible : Native.Eligible s (.of draw.pool) := by
      have hview := List.mem_map_of_mem (f := fun draw : Draw => PoolView.of draw.pool) hdraw
      rw [hchosen] at hview
      exact (Native.mem_chosen hview).2
    rw [List.map_append, List.map_cons] at hchosen
    obtain ⟨id, hid, hprovides, hnew⟩ := Native.exists_new_of_choose hchosen.symm
    obtain ⟨hinstalled, hwanted⟩ := Native.mem_targets_iff.mp hid
    have hproduct : id ∈ b.productIds := by
      simpa [Binding.snapshot, ProductView.placeholder, Function.comp_def] using hinstalled
    obtain ⟨hquiet, hquiet'⟩ := unobjected_of_eligible heligible hquantity
    refine ⟨(filter.candidates_sublist _ _).subset hcandidate, hcandidate,
      heligible.serviceLevel, heligible.architecture, ⟨id, hproduct, hwanted, hprovides, ?_⟩,
      ?_, ?_⟩
    · exact fun earlier hearlier => hnew _ (List.mem_map_of_mem hearlier)
    · exact UInt32.lt_iff_toNat_lt.mp draw.positive
    · intro caller notice hnotice severity
      exact ⟨Request.key_ne_of_check hquiet hnotice severity,
        Request.key_ne_of_check hquiet' hnotice severity⟩

/-- A draw from a pool of five. -/
def leftDraw : Draw := ⟨Native.yearly "left" 5 ["web", "os"], 1, UInt32.zero_lt_one⟩

/-- A draw from a pool without limit. -/
def rightDraw : Draw := ⟨Native.yearly "right" (-1) ["db", "web"], 1, UInt32.zero_lt_one⟩

/-- A binding of three products among overlapping pools, of which one is used up. -/
def overlapping : Binding where
  consumer := ⟨"c", .system, .ofList [(Fact.certificateVersion, "3.2")], .empty, none⟩
  productIds := ["web", "os", "db"]
  pools := [Native.yearly "both" 0 ["web", "db"], leftDraw.pool, rightDraw.pool]
  compliance := .empty
  serviceLevelOverride := none
  exemptLevels := .empty

/-- The two draws are the native policy's. Its steps are written out, since the order in which
pools are chosen is not found by evaluation. -/
theorem result_overlapping :
    (overlapping.run ⟨.empty, 185⟩ (Native.evaluator .default)).result =
      .ok [leftDraw, rightDraw] := by
  have hcandidates : ContentFilter.candidates ⟨.empty, 185⟩ overlapping.consumer
      overlapping.pools = overlapping.pools := by decide
  have hfirst : Native.best? (Native.targets .default (overlapping.snapshot overlapping.pools))
      (Native.eligible (overlapping.snapshot overlapping.pools)) =
        some (.of leftDraw.pool) := by decide
  have hsecond : Native.best? ["db"] [.of rightDraw.pool] = some (.of rightDraw.pool) := by decide
  have hlast : Native.best? [] [] = none := by decide
  have hchosen : Native.chosen .default (overlapping.snapshot overlapping.pools) =
      [.of leftDraw.pool, .of rightDraw.pool] := by
    rw [Native.chosen, Native.choose_of_best? hfirst]
    exact congrArg _ ((Native.choose_of_best? hsecond).trans
      (congrArg _ (Native.choose_of_none hlast)))
  rw [result_native (by decide), hcandidates, Native.select, hchosen]
  decide

theorem run_native_sound_overlapping :
    (overlapping.pools.map (·.id)).Nodup ∧
      (overlapping.run ⟨.empty, 185⟩ (Native.evaluator .default)).result =
        .ok [leftDraw, rightDraw] ∧
      ∃ id ∈ overlapping.productIds,
        rightDraw.pool.provides id = true ∧ leftDraw.pool.provides id = false := by
  have hids : (overlapping.pools.map (·.id)).Nodup := by decide
  obtain ⟨-, -, hdraws⟩ := run_native_sound overlapping ⟨.empty, 185⟩ .default _ hids
    result_overlapping
  obtain ⟨-, -, -, -, ⟨id, hid, -, hprovides, hnew⟩, -⟩ := hdraws [leftDraw] rightDraw [] rfl
  exact ⟨hids, result_overlapping, id, hid, hprovides, hnew leftDraw List.mem_cons_self⟩

end Binding

end Allotment
