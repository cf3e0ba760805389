import Allotment.Proofs.Binding.NativeBinding
import Allotment.Proofs.Native.Quantity

/-!
# What bindings by the native policy come to

Nothing is assumed of the pools here, whose ids may repeat. The native policy never faults, names
candidates only, each id once, and asks for at least one unit of each; so a binding by it succeeds
wherever something can be covered, unless more units are needed than a draw can hold
(`run_native_outcome`).
-/

namespace Allotment.Binding

/-- A candidate that suits the consumer provides an installed product that is not skipped as
covered. -/
def Coverable (b : Binding) (settings : NativeSettings) (candidates : List Pool) : Prop :=
  ∃ id ∈ b.productIds,
    ¬ (settings.skipCoveredProducts = true ∧ b.compliance.isCovered id = true) ∧
      ∃ pool ∈ candidates, Native.Eligible (b.snapshot candidates) (.of pool) ∧
        pool.provides id = true

variable {b : Binding} {filter : ContentFilter} {settings : NativeSettings}
  {candidates : List Pool}

theorem isTarget_snapshot_iff {id : String} :
    Native.IsTarget settings (b.snapshot candidates) id ↔
      id ∈ b.productIds ∧
        ¬ (settings.skipCoveredProducts = true ∧ b.compliance.isCovered id = true) := by
  have hproducts : (b.snapshot candidates).products.map (·.id) = b.productIds := by
    simp [snapshot, ProductView.placeholder, Function.comp_def]
  rw [Native.IsTarget, hproducts]
  rfl

theorem providable_snapshot_iff {id : String} :
    Native.Providable (b.snapshot candidates) id ↔
      ∃ pool ∈ candidates, Native.Eligible (b.snapshot candidates) (.of pool) ∧
        pool.provides id = true := by
  have hpools : (b.snapshot candidates).pools = candidates.map PoolView.of := rfl
  rw [Native.Providable, hpools]
  constructor
  · rintro ⟨view, hview, heligible, hprovides⟩
    obtain ⟨pool, hpool, rfl⟩ := List.mem_map.mp hview
    exact ⟨pool, hpool, heligible, hprovides⟩
  · rintro ⟨pool, hpool, heligible, hprovides⟩
    exact ⟨.of pool, List.mem_map_of_mem hpool, heligible, hprovides⟩

theorem select_snapshot_eq_nil_iff :
    Native.select settings (b.snapshot candidates) = [] ↔ ¬ b.Coverable settings candidates := by
  rw [Native.select_eq_nil_iff]
  simp only [isTarget_snapshot_iff, providable_snapshot_iff, Coverable, and_assoc]

/-! ## The selections of the native policy -/

theorem exists_candidate_of_selection {selection : Selection}
    (h : selection ∈ Native.select settings (b.snapshot candidates)) :
    ∃ pool ∈ candidates, pool.id = selection.poolId := by
  obtain ⟨view, hview, rfl⟩ := List.mem_map.mp h
  obtain ⟨pool, hpool, rfl⟩ := List.mem_map.mp (Native.mem_chosen hview).1
  exact ⟨pool, hpool, rfl⟩

theorem one_le_quantity_of_selection {selection : Selection}
    (h : selection ∈ Native.select settings (b.snapshot candidates)) :
    1 ≤ selection.quantity.val := by
  obtain ⟨view, -, rfl⟩ := List.mem_map.mp h
  exact Native.one_le_quantityFor _ _

/-- Selections of the native policy can be followed unless one of them is too great to be drawn. -/
theorem followable_select_iff :
    Followable (byId candidates) [] (Native.select settings (b.snapshot candidates)) ↔
      ∀ selection ∈ Native.select settings (b.snapshot candidates),
        selection.quantity.val ≤ 4294967295 := by
  rw [followable_byId_iff]
  constructor
  · intro h selection hselection
    exact (h.2 selection hselection (exists_candidate_of_selection hselection)).2
  · intro h
    refine ⟨Native.nodup_poolIds_select _ _, fun selection hselection _ => ?_⟩
    exact ⟨one_le_quantity_of_selection hselection, h selection hselection⟩

theorem takings_select_ne_nil
    (h : Native.select settings (b.snapshot candidates) ≠ []) :
    takings (byId candidates) (Native.select settings (b.snapshot candidates)) ≠ [] := by
  obtain ⟨selection, hselection⟩ := List.exists_mem_of_ne_nil _ h
  obtain ⟨pool, hpool, hid⟩ := exists_candidate_of_selection hselection
  intro hnone
  exact takings_byId_eq_nil_iff.mp hnone selection hselection pool hpool hid

/-! ## Outcomes -/

/-- The four ways in which a binding by the native policy can end. -/
theorem run_native_cases (b : Binding) (filter : ContentFilter) (settings : NativeSettings) :
    let candidates := filter.candidates b.consumer b.pools
    let selections := Native.select settings (b.snapshot candidates)
    let result := (b.run filter (Native.evaluator settings)).result
    candidates = [] ∧ selections = [] ∧ FailsAs result "no_eligible_pools" ∨
      candidates ≠ [] ∧ selections = [] ∧ FailsAs result "no_selection" ∨
      candidates ≠ [] ∧ (∃ selection ∈ selections, 4294967295 < selection.quantity.val) ∧
        FailsAs result "invalid_policy_output" ∨
      candidates ≠ [] ∧ selections ≠ [] ∧
        (∀ selection ∈ selections, selection.quantity.val ≤ 4294967295) ∧
        ∃ draws, result = .ok draws := by
  intro candidates selections result
  by_cases hcandidates : candidates = []
  · have hnothing : ¬ b.Coverable settings candidates := by
      rintro ⟨id, -, -, pool, hpool, -⟩
      rw [hcandidates] at hpool
      cases hpool
    have hrun := run_of_no_candidate hcandidates (Native.evaluator settings)
    exact .inl ⟨hcandidates, select_snapshot_eq_nil_iff.mpr hnothing, _,
      congrArg BindingOutcome.result hrun, rfl⟩
  · have hresult : result = resolve b.productIds candidates (some selections) :=
      result_native hcandidates
    by_cases hselections : selections = []
    · rw [hselections] at hresult
      exact .inr (.inl ⟨hcandidates, hselections, _, hresult, rfl⟩)
    · rw [hresult]
      rcases resolve_cases b.productIds candidates hselections with
        ⟨hnot, hinvalid⟩ | ⟨-, hnone, -⟩ | ⟨hfollow, -, draws, hdraws, -⟩
      · refine .inr (.inr (.inl ⟨hcandidates, ?_, hinvalid⟩))
        rw [followable_select_iff] at hnot
        simpa only [not_forall, exists_prop, Int.not_le] using hnot
      · exact absurd hnone (takings_select_ne_nil hselections)
      · exact .inr (.inr (.inr
          ⟨hcandidates, hselections, followable_select_iff.mp hfollow, draws, hdraws⟩))

/-- A binding by the native policy fails for want of pools exactly if no pool is a candidate, and
for want of a selection exactly if there are candidates, but nothing can be covered. It is blamed
on the policy exactly if more units of a pool are asked for than 32 bits hold. In all other cases
it succeeds, and never does it fail by a fault of the policy. -/
theorem run_native_outcome (b : Binding) (filter : ContentFilter) (settings : NativeSettings) :
    let candidates := filter.candidates b.consumer b.pools
    let selections := Native.select settings (b.snapshot candidates)
    let result := (b.run filter (Native.evaluator settings)).result
    (FailsAs result "no_eligible_pools" ↔ candidates = []) ∧
    (FailsAs result "no_selection" ↔ candidates ≠ [] ∧ ¬ b.Coverable settings candidates) ∧
    (FailsAs result "invalid_policy_output" ↔
      ∃ selection ∈ selections, 4294967295 < selection.quantity.val) ∧
    ¬ FailsAs result "policy_fault" ∧
    ((∃ draws, result = .ok draws) ↔
      candidates ≠ [] ∧ b.Coverable settings candidates ∧
        ∀ selection ∈ selections, selection.quantity.val ≤ 4294967295) := by
  intro candidates selections result
  have hcoverable : b.Coverable settings candidates ↔ selections ≠ [] := by
    rw [ne_eq, select_snapshot_eq_nil_iff, not_not]
  have hfit : (∀ selection ∈ selections, selection.quantity.val ≤ 4294967295) ↔
      ¬ ∃ selection ∈ selections, 4294967295 < selection.quantity.val := by
    simp only [not_exists, not_and, Int.not_lt]
  rw [hcoverable, hfit]
  rcases run_native_cases b filter settings with
    ⟨(hcandidates : candidates = []), (hselections : selections = []),
      (hfails : FailsAs result _)⟩ |
    ⟨(hcandidates : candidates ≠ []), (hselections : selections = []),
      (hfails : FailsAs result _)⟩ |
    ⟨(hcandidates : candidates ≠ []), (hvast : ∃ selection ∈ selections, _),
      (hfails : FailsAs result _)⟩ |
    ⟨(hcandidates : candidates ≠ []), (hselections : selections ≠ []), hsmall, draws,
      (hdraws : result = .ok draws)⟩
  · simp [hfails.iff_eq, hfails.not_ok, hcandidates, hselections]
  · simp [hfails.iff_eq, hfails.not_ok, hcandidates, hselections]
  · have hselections : selections ≠ [] := by
      obtain ⟨selection, hselection, -⟩ := hvast
      exact List.ne_nil_of_mem hselection
    simp [hfails.iff_eq, hfails.not_ok, hcandidates, hselections, hvast]
  · have hnever : ∀ kind, ¬ FailsAs result kind := not_failsAs_of_ok hdraws
    simp only [hnever]
    simp [hdraws, hcandidates, hselections, hfit.mp hsmall]

/-- A pool without limit whose entitlements stack, each for one socket. -/
def oneSocketEach : Pool :=
  { Native.yearly "vast" (-1) ["web"] with
    productAttributes :=
      .ofList [(Attribute.sockets, "1"), (Attribute.stackingId, "stack")] }

/-- A binding for a consumer with one socket more than a draw can hold. -/
def vast : Binding where
  consumer := ⟨"c", .system, .ofList [(Fact.certificateVersion, "3.2"),
    (Fact.cpuSockets, "4294967296")], .empty, none⟩
  productIds := ["web"]
  pools := [oneSocketEach]
  compliance := .empty
  serviceLevelOverride := none
  exemptLevels := .empty

/-- The installed product can be covered, and yet the binding is blamed on the policy. -/
theorem run_native_vast :
    vast.Coverable .default (ContentFilter.candidates ⟨.empty, 185⟩ vast.consumer vast.pools) ∧
      (vast.run ⟨.empty, 185⟩ (Native.evaluator .default)).result =
        .error (.invalidQuantity "vast" 4294967296) ∧
      FailsAs (vast.run ⟨.empty, 185⟩ (Native.evaluator .default)).result
        "invalid_policy_output" := by
  have hcandidates : ContentFilter.candidates ⟨.empty, 185⟩ vast.consumer vast.pools =
      [oneSocketEach] := by decide
  have hfirst : Native.best? (Native.targets .default (vast.snapshot [oneSocketEach]))
      (Native.eligible (vast.snapshot [oneSocketEach])) = some (.of oneSocketEach) := by decide
  have hlast : Native.best? [] [] = none := by decide
  have hchosen : Native.chosen .default (vast.snapshot [oneSocketEach]) =
      [.of oneSocketEach] := by
    rw [Native.chosen, Native.choose_of_best? hfirst]
    exact congrArg _ (Native.choose_of_none hlast)
  have hresult : (vast.run ⟨.empty, 185⟩ (Native.evaluator .default)).result =
      .error (.invalidQuantity "vast" 4294967296) := by
    rw [result_native (by decide), hcandidates, Native.select, hchosen]
    decide
  have hcoverable : vast.Coverable .default [oneSocketEach] := by
    refine ⟨"web", ?_, ?_, oneSocketEach, ?_, ?_, ?_⟩
    · decide
    · decide
    · decide
    · decide
    · decide
  rw [hcandidates]
  exact ⟨hcoverable, hresult, _, hresult, rfl⟩

end Allotment.Binding
