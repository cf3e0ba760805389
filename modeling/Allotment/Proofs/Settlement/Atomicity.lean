import Allotment.Proofs.Settlement.Recording

/-!
# Settlements are atomic

All directives are checked before the first one is handed to the manager. So a settlement that
fails has called no manager, and a manager is handed only directives that fit the grant
(`settle_atomic`). The checks say how a directive fails to fit; whether it does is stated without
them, by `Fits`.
-/

namespace Allotment.Grant

variable {σ : Type} {g : Grant} {manager : PoolManager σ} {state : σ}

/-- The directive is about what was granted, and its quantity can be used: a sub-pool is the one
of its stack and is given no negative quantity, a bonus pool comes from a granted pool and has a
positive quantity or none that limits it. -/
def Fits (g : Grant) : Directive → Prop
  | .updateSubPool stackId poolId quantity =>
      ∃ subPool, g.subPools.get? stackId = some subPool ∧ subPool.id = poolId ∧ 0 ≤ quantity.val
  | .createBonusPool sourcePoolId quantity =>
      (∃ e ∈ g.entitlements.values, e.pool.id = sourcePoolId) ∧
        (0 < quantity.val ∨ quantity.val = -1)

theorem unlimited_iff {quantity : Amount} : quantity = Pool.unlimited ↔ quantity.val = -1 :=
  ⟨fun h => h ▸ rfl, fun h => Amount.ext h⟩

/-- A directive has no defect exactly if it fits. -/
theorem defect?_eq_none_iff {d : Directive} : g.defect? d = none ↔ g.Fits d := by
  cases d with
  | updateSubPool stackId poolId quantity =>
      simp only [defect?, Fits]
      split
      · rename_i hget
        simp [hget]
      · rename_i subPool hget
        simp only [hget, Option.some.injEq, exists_eq_left']
        split
        · rename_i hforeign
          exact iff_of_false (Option.some_ne_none _) fun h => hforeign h.1
        · rename_i hid
          split
          · rename_i hneg
            exact iff_of_false (Option.some_ne_none _) fun h => Int.not_lt.mpr h.2 hneg
          · rename_i hnonneg
            exact iff_of_true rfl ⟨Decidable.of_not_not hid, Int.not_lt.mp hnonneg⟩
  | createBonusPool sourcePoolId quantity =>
      have hgranted : (g.entitlements.values.any fun e => e.pool.id == sourcePoolId) = true ↔
          ∃ e ∈ g.entitlements.values, e.pool.id = sourcePoolId := by
        simp
      simp only [defect?, Fits, ← hgranted]
      split
      · rename_i hforeign
        exact iff_of_false (Option.some_ne_none _) fun h => by simp [h.1] at hforeign
      · rename_i hsource
        have hquantity : (quantity.val ≤ 0 ∧ quantity ≠ Pool.unlimited) ↔
            ¬ (0 < quantity.val ∨ quantity.val = -1) := by
          rw [Ne, unlimited_iff]
          omega
        split
        · rename_i hunusable
          exact iff_of_false (Option.some_ne_none _) fun h => hquantity.mp hunusable h.2
        · rename_i husable
          exact iff_of_true rfl
            ⟨by simpa using hsource, Decidable.of_not_not (mt hquantity.mpr husable)⟩

/-! ## Checking before applying -/

theorem carryOut_of_fits {directives : List Directive} (h : ∀ d ∈ directives, g.Fits d) :
    g.carryOut manager state directives =
      (.ok (apply manager g.consumer state directives).1,
        (apply manager g.consumer state directives).2) := by
  have hchecked : directives.findSome? g.defect? = none :=
    List.findSome?_eq_none_iff.mpr fun d hd => defect?_eq_none_iff.mpr (h d hd)
  rw [carryOut, hchecked]

/-- The first directive that does not fit decides the error, and the manager is left alone. -/
theorem carryOut_of_first_unfit {before after : List Directive} {d : Directive}
    (hbefore : ∀ earlier ∈ before, g.Fits earlier) (hd : ¬ g.Fits d) :
    ∃ defect, g.defect? d = some defect ∧
      g.carryOut manager state (before ++ d :: after) =
        (.error (.invalidDirective defect), state) := by
  obtain ⟨defect, hdefect⟩ := Option.ne_none_iff_exists'.mp (mt defect?_eq_none_iff.mp hd)
  have hfound : (before ++ d :: after).findSome? g.defect? = some defect :=
    List.findSome?_eq_some_iff.mpr ⟨before, d, after, rfl, hdefect,
      fun earlier hearlier => defect?_eq_none_iff.mpr (hbefore earlier hearlier)⟩
  exact ⟨defect, hdefect, by rw [carryOut, hfound]⟩

theorem fits_or_first_unfit (directives : List Directive) :
    (∀ d ∈ directives, g.Fits d) ∨
      ∃ before d after, directives = before ++ d :: after ∧
        (∀ earlier ∈ before, g.Fits earlier) ∧ ¬ g.Fits d := by
  cases hfound : directives.findSome? g.defect? with
  | none =>
      exact .inl fun d hd => defect?_eq_none_iff.mp (List.findSome?_eq_none_iff.mp hfound d hd)
  | some defect =>
      obtain ⟨before, d, after, hsplit, hd, hbefore⟩ := List.findSome?_eq_some_iff.mp hfound
      refine .inr ⟨before, d, after, hsplit, fun earlier hearlier => ?_, fun hfits => ?_⟩
      · exact defect?_eq_none_iff.mp (hbefore earlier hearlier)
      · cases hd.symm.trans (defect?_eq_none_iff.mpr hfits)

/-- All that an answer can come to: the result, and the state in which the manager is left. Only
directives that all fit reach the manager. -/
inductive Conclusion (g : Grant) (manager : PoolManager σ) (state : σ) :
    Except PolicyFault PolicyOutput → Except SettlementError SettlementReport × σ → Prop where
  | fault (fault : PolicyFault) :
      Conclusion g manager state (.error fault) (.error (.policyFault fault), state)
  | notConfigured : Conclusion g manager state (.ok .notConfigured) (.ok .unconfigured, state)
  | selection (selections : Option (List Selection)) :
      Conclusion g manager state (.ok (.selection selections)) (.error .selectionReturned, state)
  | unfit (directives : List Directive) (hunfit : ∃ d ∈ directives, ¬ g.Fits d)
      (defect : DirectiveDefect) :
      Conclusion g manager state (.ok (.directives directives))
        (.error (.invalidDirective defect), state)
  | applied (directives : List Directive) (hfits : ∀ d ∈ directives, g.Fits d) :
      Conclusion g manager state (.ok (.directives directives))
        (.ok (apply manager g.consumer state directives).1,
          (apply manager g.consumer state directives).2)

theorem conclusion (g : Grant) (manager : PoolManager σ) (state : σ)
    (answer : Except PolicyFault PolicyOutput) :
    g.Conclusion manager state answer (g.conclude manager state answer) := by
  cases answer with
  | error fault => exact .fault fault
  | ok output =>
      cases output with
      | notConfigured => exact .notConfigured
      | selection selections => exact .selection selections
      | directives directives =>
          change g.Conclusion manager state _ (g.carryOut manager state directives)
          rcases g.fits_or_first_unfit directives with
            hfits | ⟨before, d, after, rfl, hbefore, hd⟩
          · rw [carryOut_of_fits hfits]
            exact .applied directives hfits
          · obtain ⟨defect, -, hresult⟩ := carryOut_of_first_unfit hbefore hd
            rw [hresult]
            exact .unfit _ ⟨d, by simp, hd⟩ defect

section
variable {answer : Except PolicyFault PolicyOutput}
  {run : Except SettlementError SettlementReport × σ}

namespace Conclusion

theorem policyFault_iff (h : g.Conclusion manager state answer run) {fault : PolicyFault} :
    run.1 = .error (.policyFault fault) ↔ answer = .error fault := by
  cases h with
  | fault => simp
  | notConfigured => simp
  | selection => simp
  | unfit => simp
  | applied => simp

theorem selectionReturned_iff (h : g.Conclusion manager state answer run) :
    run.1 = .error .selectionReturned ↔ ∃ selections, answer = .ok (.selection selections) := by
  cases h with
  | fault => simp
  | notConfigured => simp
  | selection => simp
  | unfit => simp
  | applied => simp

theorem invalidDirective_iff (h : g.Conclusion manager state answer run) :
    (∃ defect, run.1 = .error (.invalidDirective defect)) ↔
      ∃ directives, answer = .ok (.directives directives) ∧ ∃ d ∈ directives, ¬ g.Fits d := by
  cases h with
  | fault => simp
  | notConfigured => simp
  | selection => simp
  | unfit directives hunfit defect => exact iff_of_true ⟨defect, rfl⟩ ⟨directives, rfl, hunfit⟩
  | applied directives hfits =>
      refine iff_of_false (by simp) ?_
      rintro ⟨_, ⟨⟩, d, hd, hunfit⟩
      exact hunfit (hfits d hd)

/-- The state changes only under directives that are applied. -/
theorem untouched (h : g.Conclusion manager state answer run)
    (hfails : (∃ e, run.1 = .error e) ∨ answer = .ok .notConfigured) : run.2 = state := by
  cases h with
  | fault => rfl
  | notConfigured => rfl
  | selection => rfl
  | unfit => rfl
  | applied => simp at hfails

end Conclusion

/-- A recording manager notes only directives that fit. -/
theorem fits_of_mem_noted {call : Handover σ}
    {run : Except SettlementError SettlementReport × σ × List (Handover σ)}
    (h : g.Conclusion manager.recorded (state, []) answer run) (hcall : call ∈ run.2.2) :
    g.Fits call.directive := by
  cases h with
  | fault => cases hcall
  | notConfigured => cases hcall
  | selection => cases hcall
  | unfit => cases hcall
  | applied directives hfits =>
      rw [apply_recorded, List.nil_append] at hcall
      have hdirective := List.mem_map_of_mem (f := fun call : Handover σ => call.directive) hcall
      rw [directives_journal] at hdirective
      exact hfits _ (List.mem_filter.mp hdirective).1

end

/-- A settlement fails exactly if the policy does, if it answers with a selection, or if one of
its directives does not fit, and then the first such directive decides the error. A settlement
that fails, or that has no policy to ask, calls no manager and leaves the state as it was; and
whatever is handed to a manager fits. -/
theorem settle_atomic (g : Grant) (evaluator : PolicyEvaluator) (manager : PoolManager σ)
    (state : σ) :
    let question : PolicyCall := ⟨Operation.postEntitlement, .grant g.snapshot⟩
    let answer := (evaluator question.operation question.snapshot).outcome
    let outcome := g.settle evaluator manager state
    let handed := g.handovers evaluator manager state
    (∀ fault, outcome.result = .error (.policyFault fault) ↔ answer = .error fault) ∧
    (outcome.result = .error .selectionReturned ↔
      ∃ selections, answer = .ok (.selection selections)) ∧
    ((∃ defect, outcome.result = .error (.invalidDirective defect)) ↔
      ∃ directives, answer = .ok (.directives directives) ∧ ∃ d ∈ directives, ¬ g.Fits d) ∧
    (∀ before d after, answer = .ok (.directives (before ++ d :: after)) →
      (∀ earlier ∈ before, g.Fits earlier) → ¬ g.Fits d →
        ∃ defect, g.defect? d = some defect ∧
          outcome.result = .error (.invalidDirective defect)) ∧
    (answer = .ok .notConfigured → outcome.result = .ok .unconfigured) ∧
    ((∃ e, outcome.result = .error e) ∨ answer = .ok .notConfigured →
      handed = [] ∧ outcome.state = state) ∧
    ∀ call ∈ handed, g.Fits call.directive := by
  intro question answer outcome handed
  have hplain : g.Conclusion manager state answer (outcome.result, outcome.state) :=
    g.conclusion manager state answer
  have hrecorded := g.conclusion manager.recorded (state, []) answer
  refine ⟨fun fault => hplain.policyFault_iff, hplain.selectionReturned_iff,
    hplain.invalidDirective_iff, ?_, ?_, ?_, fun call => fits_of_mem_noted hrecorded⟩
  · intro before d after hanswer hbefore hd
    obtain ⟨defect, hdefect, hresult⟩ := carryOut_of_first_unfit hbefore hd
    refine ⟨defect, hdefect, ?_⟩
    change (g.conclude manager state answer).1 = _
    rw [hanswer]
    exact congrArg Prod.fst hresult
  · intro hanswer
    change (g.conclude manager state answer).1 = _
    rw [hanswer]
    rfl
  · intro hfails
    have hnoted : (g.conclude manager.recorded (state, []) answer).2 = (state, []) := by
      refine hrecorded.untouched ?_
      rw [(conclude_recorded state [] answer).1]
      exact hfails
    exact ⟨congrArg Prod.snd hnoted, hplain.untouched hfails⟩

end Allotment.Grant
