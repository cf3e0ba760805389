import Allotment.Proofs.Binding.Selections
import Mathlib.Logic.Basic

/-!
# The outcome of a binding

Nothing is assumed of the policy that is asked. Whatever it answers, the outcome of a binding is
fixed by the candidates and by that one answer; `run_outcome` goes through the answers in turn.
-/

namespace Allotment.Binding

/-- The candidate that an id stands for, which is the last one that bears it. -/
def meant? (candidates : List Pool) (id : String) : Option Pool :=
  candidates.reverse.find? fun pool => pool.id == id

/-- The result is an error of the given kind. -/
def FailsAs (result : Except BindingError (List Draw)) (kind : String) : Prop :=
  ∃ e, result = .error e ∧ e.kind = kind

theorem FailsAs.kind_eq {result : Except BindingError (List Draw)} {kind other : String}
    (h : FailsAs result kind) (h' : FailsAs result other) : kind = other := by
  obtain ⟨e, he, rfl⟩ := h
  obtain ⟨e', he', rfl⟩ := h'
  cases he.symm.trans he'
  rfl

theorem not_failsAs_of_ok {result : Except BindingError (List Draw)} {draws : List Draw}
    (h : result = .ok draws) (kind : String) : ¬ FailsAs result kind := by
  rintro ⟨e, he, -⟩
  cases h.symm.trans he

theorem FailsAs.iff_eq {result : Except BindingError (List Draw)} {kind other : String}
    (h : FailsAs result kind) : FailsAs result other ↔ kind = other :=
  ⟨h.kind_eq, fun heq => heq ▸ h⟩

theorem FailsAs.not_ok {result : Except BindingError (List Draw)} {kind : String}
    (h : FailsAs result kind) : ¬ ∃ draws, result = .ok draws :=
  fun ⟨_, hdraws⟩ => not_failsAs_of_ok hdraws kind h

/-- The table in which selected ids are looked up. -/
def byId (candidates : List Pool) : Table Pool :=
  Table.ofList (candidates.map fun pool => (pool.id, pool))

theorem get?_byId (candidates : List Pool) (id : String) :
    (byId candidates).get? id = meant? candidates id := by
  rw [byId, Table.get?_ofList, ← List.map_reverse, List.find?_map, Option.map_map, meant?]
  exact Option.map_id'

theorem isSome_meant?_iff {candidates : List Pool} {id : String} :
    (meant? candidates id).isSome ↔ ∃ pool ∈ candidates, pool.id = id := by
  simp [meant?]

variable {candidates : List Pool} {selections : List Selection}

theorem followable_byId_iff :
    Followable (byId candidates) [] selections ↔
      (selections.map (·.poolId)).Nodup ∧
        ∀ s ∈ selections, (∃ pool ∈ candidates, pool.id = s.poolId) → Drawable s.quantity := by
  simp only [← isSome_meant?_iff, ← get?_byId]
  exact ⟨fun h => ⟨h.nodup, h.drawable⟩, fun h => ⟨h.1, by simp, h.2⟩⟩

theorem takings_byId_eq_nil_iff :
    takings (byId candidates) selections = [] ↔
      ∀ s ∈ selections, ∀ pool ∈ candidates, pool.id ≠ s.poolId := by
  simp only [takings, List.filterMap_eq_nil_iff, Option.map_eq_none_iff]
  refine forall₂_congr fun s _ => ?_
  rw [← Option.not_isSome_iff_eq_none, get?_byId, isSome_meant?_iff]
  simp

/-- All that can come of selections that are there: one of the two kinds of error, or draws. -/
theorem resolve_cases (productIds : List String) (candidates : List Pool)
    (h : selections ≠ []) :
    ¬ Followable (byId candidates) [] selections ∧
        FailsAs (resolve productIds candidates (some selections)) "invalid_policy_output" ∨
      Followable (byId candidates) [] selections ∧ takings (byId candidates) selections = [] ∧
        FailsAs (resolve productIds candidates (some selections)) "no_selection" ∨
      Followable (byId candidates) [] selections ∧ takings (byId candidates) selections ≠ [] ∧
        ∃ draws, resolve productIds candidates (some selections) = .ok draws ∧
          draws.map Draw.taken = takings (byId candidates) selections := by
  obtain ⟨s, rest, rfl⟩ := List.exists_cons_of_ne_nil h
  rw [resolve, Option.getD_some, ← byId]
  dsimp only
  cases hwalk : drawsFrom (byId candidates) [] (s :: rest) with
  | error e =>
      obtain ⟨hnot, hkind⟩ := not_followable_of_drawsFrom hwalk
      exact .inl ⟨hnot, e, rfl, hkind⟩
  | ok draws =>
      obtain ⟨hfollow, htaken⟩ := followable_of_drawsFrom hwalk
      cases draws with
      | nil => exact .inr (.inl ⟨hfollow, htaken.symm, _, rfl, rfl⟩)
      | cons draw draws =>
          refine .inr (.inr ⟨hfollow, ?_, draw :: draws, rfl, htaken⟩)
          rw [← htaken]
          exact List.cons_ne_nil _ _

theorem takings_byId :
    takings (byId candidates) selections =
      selections.filterMap fun s =>
        (meant? candidates s.poolId).map fun pool => (pool, s.quantity.val) := by
  simp only [takings, get?_byId]

/-- The part of an outcome that rests on a list of selections. -/
theorem resolve_outcome (productIds : List String) (candidates : List Pool)
    (h : selections ≠ []) :
    let result := resolve productIds candidates (some selections)
    (FailsAs result "invalid_policy_output" ↔
      ¬ (selections.map (·.poolId)).Nodup ∨
        ∃ s ∈ selections, (∃ pool ∈ candidates, pool.id = s.poolId) ∧
          ¬ (1 ≤ s.quantity.val ∧ s.quantity.val ≤ 4294967295)) ∧
    (¬ FailsAs result "invalid_policy_output" →
      (FailsAs result "no_selection" ↔
        ∀ s ∈ selections, ∀ pool ∈ candidates, pool.id ≠ s.poolId) ∧
      (¬ FailsAs result "no_selection" →
        ∃ draws, result = .ok draws ∧
          draws.map Draw.taken = selections.filterMap fun s =>
            (meant? candidates s.poolId).map fun pool => (pool, s.quantity.val))) := by
  intro result
  have hdefect : ¬ Followable (byId candidates) [] selections ↔
      ¬ (selections.map (·.poolId)).Nodup ∨
        ∃ s ∈ selections, (∃ pool ∈ candidates, pool.id = s.poolId) ∧
          ¬ (1 ≤ s.quantity.val ∧ s.quantity.val ≤ 4294967295) := by
    rw [followable_byId_iff, not_and_or]
    simp only [not_forall, exists_prop, Drawable]
  rw [← hdefect, ← takings_byId_eq_nil_iff, ← takings_byId]
  rcases resolve_cases productIds candidates h with
    ⟨hnot, hinvalid⟩ | ⟨hfollow, hnone, hempty⟩ | ⟨hfollow, hsome, draws, hdraws, htaken⟩
  · exact ⟨iff_of_true hinvalid hnot, fun hvalid => absurd hinvalid hvalid⟩
  · have hvalid : ¬ FailsAs result "invalid_policy_output" := fun hinvalid =>
      absurd (hempty.kind_eq hinvalid) (by decide)
    exact ⟨iff_of_false hvalid (not_not_intro hfollow),
      fun _ => ⟨iff_of_true hempty hnone, fun hno => absurd hempty hno⟩⟩
  · have hok := not_failsAs_of_ok hdraws
    exact ⟨iff_of_false (hok _) (not_not_intro hfollow),
      fun _ => ⟨iff_of_false (hok _) hsome, fun _ => ⟨draws, hdraws, htaken⟩⟩⟩

/-! ## Runs -/

section
variable {b : Binding} {filter : ContentFilter}

theorem run_of_no_candidate (h : filter.candidates b.consumer b.pools = [])
    (evaluator : PolicyEvaluator) :
    b.run filter evaluator = ⟨.error (.noEligiblePools b.productIds), [], []⟩ := by
  rw [run, h]

theorem run_of_candidates (h : filter.candidates b.consumer b.pools ≠ [])
    (evaluator : PolicyEvaluator) :
    let candidates := filter.candidates b.consumer b.pools
    let question : PolicyCall := ⟨Operation.selectPools, .selection (b.snapshot candidates)⟩
    let reply := evaluator question.operation question.snapshot
    b.run filter evaluator =
      ⟨conclude b.productIds candidates reply.outcome, [question], reply.log⟩ := by
  intro candidates question reply
  rw [run]
  split
  · rename_i hnone
    exact absurd hnone h
  · rfl

end

/-- Without a candidate the policy is not asked. With one it is asked a single question, about
the candidates in their order; nothing else that it would answer matters, and its one answer
decides between all draws, draws of what it selected, and the four kinds of error. -/
theorem run_outcome (b : Binding) (filter : ContentFilter) (evaluator : PolicyEvaluator) :
    let candidates := filter.candidates b.consumer b.pools
    let question : PolicyCall := ⟨Operation.selectPools, .selection (b.snapshot candidates)⟩
    let answer := (evaluator question.operation question.snapshot).outcome
    let outcome := b.run filter evaluator
    (candidates = [] →
      FailsAs outcome.result "no_eligible_pools" ∧ outcome.calls = [] ∧
        ∀ other : PolicyEvaluator, b.run filter other = outcome) ∧
    (candidates ≠ [] →
      outcome.calls = [question] ∧
      (b.snapshot candidates).pools = candidates.map PoolView.of ∧
      (∀ other : PolicyEvaluator, other question.operation question.snapshot =
        evaluator question.operation question.snapshot → b.run filter other = outcome) ∧
      (∀ fault, answer = .error fault →
        ∃ e, outcome.result = .error e ∧ e.kind = "policy_fault" ∧ e.fault? = some fault) ∧
      (answer = .ok .notConfigured →
        ∃ draws, outcome.result = .ok draws ∧
          draws.map Draw.taken = candidates.map fun pool => (pool, 1)) ∧
      (∀ directives, answer = .ok (.directives directives) →
        FailsAs outcome.result "invalid_policy_output") ∧
      (answer = .ok (.selection none) ∨ answer = .ok (.selection (some [])) →
        FailsAs outcome.result "no_selection") ∧
      (∀ selections, selections ≠ [] → answer = .ok (.selection (some selections)) →
        (FailsAs outcome.result "invalid_policy_output" ↔
          ¬ (selections.map (·.poolId)).Nodup ∨
            ∃ s ∈ selections, (∃ pool ∈ candidates, pool.id = s.poolId) ∧
              ¬ (1 ≤ s.quantity.val ∧ s.quantity.val ≤ 4294967295)) ∧
        (¬ FailsAs outcome.result "invalid_policy_output" →
          (FailsAs outcome.result "no_selection" ↔
            ∀ s ∈ selections, ∀ pool ∈ candidates, pool.id ≠ s.poolId) ∧
          (¬ FailsAs outcome.result "no_selection" →
            ∃ draws, outcome.result = .ok draws ∧
              draws.map Draw.taken = selections.filterMap fun s =>
                (meant? candidates s.poolId).map fun pool => (pool, s.quantity.val))))) := by
  intro candidates question answer outcome
  constructor
  · intro hnone
    have hrun := run_of_no_candidate (b := b) hnone
    refine ⟨⟨.noEligiblePools b.productIds, ?_, rfl⟩, ?_, fun other => ?_⟩
    · exact congrArg BindingOutcome.result (hrun evaluator)
    · exact congrArg BindingOutcome.calls (hrun evaluator)
    · exact (hrun other).trans (hrun evaluator).symm
  · intro hsome
    have hrun := run_of_candidates (b := b) hsome
    have hresult : outcome.result = conclude b.productIds candidates answer :=
      congrArg BindingOutcome.result (hrun evaluator)
    rw [hresult]
    refine ⟨congrArg BindingOutcome.calls (hrun evaluator), rfl, ?_, ?_, ?_, ?_, ?_, ?_⟩
    · intro other hother
      rw [hrun other, hother]
      exact (hrun evaluator).symm
    · intro fault hanswer
      rw [hanswer]
      exact ⟨_, rfl, rfl, rfl⟩
    · intro hanswer
      rw [hanswer]
      refine ⟨_, rfl, ?_⟩
      rw [List.map_map]
      rfl
    · intro directives hanswer
      rw [hanswer]
      exact ⟨_, rfl, rfl⟩
    · rintro (hanswer | hanswer) <;> rw [hanswer] <;> exact ⟨_, rfl, rfl⟩
    · intro selections hne hanswer
      rw [hanswer]
      exact resolve_outcome b.productIds candidates hne

end Allotment.Binding
