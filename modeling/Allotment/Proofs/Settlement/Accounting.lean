import Allotment.Proofs.Native.Coverage
import Allotment.Proofs.Settlement.Atomicity

/-!
# Settlements account for every directive

Where all directives fit, a settlement goes through them one by one, and this `Course` decides
what becomes of each. No directive is lost, doubled or moved: the three lists of the report
together make up the directives (`Interleaved`), and the calls of the manager, each in the state
that the call before left (`Consecutive`), say which list a directive is in
(`settle_accounts_for_all`).
-/

namespace Allotment

variable {σ : Type}

/-- The directive is one to make a bonus pool. -/
def Directive.makesBonusPool : Directive → Bool
  | .createBonusPool _ _ => true
  | .updateSubPool _ _ _ => false

/-! ## Lists that make up another one -/

/-- The first three lists together make up the last one: each of its items is the next one of
exactly one of them. -/
inductive Interleaved {α : Type} : List α → List α → List α → List α → Prop
  | nil : Interleaved [] [] [] []
  | first {a : α} {as bs cs ds : List α} :
      Interleaved as bs cs ds → Interleaved (a :: as) bs cs (a :: ds)
  | second {b : α} {as bs cs ds : List α} :
      Interleaved as bs cs ds → Interleaved as (b :: bs) cs (b :: ds)
  | third {c : α} {as bs cs ds : List α} :
      Interleaved as bs cs ds → Interleaved as bs (c :: cs) (c :: ds)

theorem Interleaved.sublists {α : Type} {as bs cs ds : List α} (h : Interleaved as bs cs ds) :
    as.Sublist ds ∧ bs.Sublist ds ∧ cs.Sublist ds := by
  induction h with
  | nil => simp
  | first _ ih => exact ⟨ih.1.cons_cons _, ih.2.1.cons _, ih.2.2.cons _⟩
  | second _ ih => exact ⟨ih.1.cons _, ih.2.1.cons_cons _, ih.2.2.cons _⟩
  | third _ ih => exact ⟨ih.1.cons _, ih.2.1.cons _, ih.2.2.cons_cons _⟩

/-! ## Calls of a manager -/

namespace Handover

/-- The manager followed the directive. -/
def succeeded (call : Handover σ) : Bool :=
  match call.answer with
  | .ok _ => true
  | .error _ => false

/-- The directive with the manager's words, where it did not follow it. -/
def failure? (call : Handover σ) : Option FailedDirective :=
  match call.answer with
  | .ok _ => none
  | .error fault => some ⟨call.directive, fault.message⟩

end Handover

/-- The calls are all for one consumer. The first is made in the first state, every other one in
the state that the call before left, and the last one leaves the last state. -/
def Consecutive (manager : PoolManager σ) (consumer : Consumer) :
    σ → List (Handover σ) → σ → Prop
  | state, [], last => last = state
  | state, call :: calls, last =>
      call = manager.handover state consumer call.directive ∧
        Consecutive manager consumer call.after calls last

namespace Grant

theorem skips_eq (consumer : Consumer) (d : Directive) :
    skips consumer d = (consumer.isManifest && d.makesBonusPool) := by
  cases d with
  | updateSubPool => simp [skips, Directive.makesBonusPool]
  | createBonusPool => simp [skips, Directive.makesBonusPool]

/-! ## Going through the directives -/

/-- Going through directives from a state: the calls that are made, what is reported, and the
state that is left. A directive is skipped, or handed to the manager, which follows it or not;
and in each case the rest is gone through. -/
inductive Course (manager : PoolManager σ) (consumer : Consumer) :
    σ → List Directive → List (Handover σ) → SettlementReport → σ → Prop
  | done (state : σ) : Course manager consumer state [] [] .configured state
  | skipped {state last : σ} {d : Directive} {ds : List Directive} {calls : List (Handover σ)}
      {report : SettlementReport} (hskips : skips consumer d = true)
      (rest : Course manager consumer state ds calls report last) :
      Course manager consumer state (d :: ds) calls
        { report with skipped := d :: report.skipped } last
  | applied {state last : σ} {d : Directive} {ds : List Directive} {call : Handover σ}
      {calls : List (Handover σ)} {report : SettlementReport} (hskips : skips consumer d = false)
      (hcall : call = manager.handover state consumer d) (hanswer : call.answer = .ok ())
      (rest : Course manager consumer call.after ds calls report last) :
      Course manager consumer state (d :: ds) (call :: calls)
        { report with applied := d :: report.applied } last
  | failed {state last : σ} {d : Directive} {ds : List Directive} {call : Handover σ}
      {calls : List (Handover σ)} {report : SettlementReport} (hskips : skips consumer d = false)
      (hcall : call = manager.handover state consumer d) (fault : PoolManagerFault)
      (hanswer : call.answer = .error fault)
      (rest : Course manager consumer call.after ds calls report last) :
      Course manager consumer state (d :: ds) (call :: calls)
        { report with failed := ⟨d, fault.message⟩ :: report.failed } last

theorem course (manager : PoolManager σ) (consumer : Consumer) (state : σ)
    (directives : List Directive) :
    Course manager consumer state directives (journal manager consumer state directives)
      (apply manager consumer state directives).1
      (apply manager consumer state directives).2 := by
  induction directives generalizing state with
  | nil => exact .done state
  | cons d ds ih =>
      unfold apply journal
      cases hskips : skips consumer d with
      | true =>
          rw [if_pos rfl, if_pos rfl]
          exact .skipped hskips (ih state)
      | false =>
          rw [if_neg Bool.false_ne_true, if_neg Bool.false_ne_true]
          have hrest := ih (manager state consumer d).2
          rcases hcall : manager state consumer d with ⟨answer, next⟩
          have hmade : manager.handover state consumer d =
              ⟨state, consumer, d, answer, next⟩ := by
            rw [PoolManager.handover, hcall]
          rw [hcall] at hrest
          cases answer with
          | ok done =>
              refine .applied hskips rfl ?_ ?_
              · rw [hmade]
              · rw [hmade]
                exact hrest
          | error fault =>
              refine .failed hskips rfl fault ?_ ?_
              · rw [hmade]
              · rw [hmade]
                exact hrest

namespace Course

variable {manager : PoolManager σ} {consumer : Consumer} {state last : σ}
  {directives : List Directive} {calls : List (Handover σ)} {report : SettlementReport}

theorem policyConfigured (h : Course manager consumer state directives calls report last) :
    report.policyConfigured = true := by
  induction h with
  | done => rfl
  | skipped _ _ ih => exact ih
  | applied _ _ _ _ ih => exact ih
  | failed _ _ _ _ _ ih => exact ih

/-- Every directive stands in one of the three lists, and each list keeps the order. -/
theorem interleaved (h : Course manager consumer state directives calls report last) :
    Interleaved report.applied report.skipped (report.failed.map (·.directive)) directives := by
  induction h with
  | done => exact .nil
  | skipped _ _ ih => exact .second ih
  | applied _ _ _ _ ih => exact .first ih
  | failed _ _ _ _ _ ih => exact .third ih

theorem skipped_eq (h : Course manager consumer state directives calls report last) :
    report.skipped = directives.filter (skips consumer) := by
  induction h with
  | done => rfl
  | skipped hskips _ ih =>
      rw [List.filter_cons_of_pos hskips, ← ih]
  | applied hskips _ _ _ ih =>
      rw [List.filter_cons_of_neg (by simp [hskips])]
      exact ih
  | failed hskips _ _ _ _ ih =>
      rw [List.filter_cons_of_neg (by simp [hskips])]
      exact ih

theorem consecutive (h : Course manager consumer state directives calls report last) :
    Consecutive manager consumer state calls last := by
  induction h with
  | done => rfl
  | skipped _ _ ih => exact ih
  | applied _ hcall _ _ ih => exact ⟨by rw [hcall]; rfl, ih⟩
  | failed _ hcall _ _ _ ih => exact ⟨by rw [hcall]; rfl, ih⟩

theorem applied_eq (h : Course manager consumer state directives calls report last) :
    report.applied = (calls.filter (·.succeeded)).map (·.directive) := by
  induction h with
  | done => rfl
  | skipped _ _ ih => exact ih
  | @applied _ _ d _ call _ _ _ hcall hanswer _ ih =>
      have hsucceeded : call.succeeded = true := by rw [Handover.succeeded, hanswer]
      have hdirective : call.directive = d := by rw [hcall]; rfl
      rw [List.filter_cons_of_pos hsucceeded, List.map_cons, hdirective, ← ih]
  | @failed _ _ _ _ call _ _ _ _ fault hanswer _ ih =>
      have hfailed : call.succeeded = false := by rw [Handover.succeeded, hanswer]
      rw [List.filter_cons_of_neg (by simp [hfailed])]
      exact ih

theorem failed_eq (h : Course manager consumer state directives calls report last) :
    report.failed = calls.filterMap (·.failure?) := by
  induction h with
  | done => rfl
  | skipped _ _ ih => exact ih
  | @applied _ _ _ _ call _ _ _ _ hanswer _ ih =>
      have hnone : call.failure? = none := by rw [Handover.failure?, hanswer]
      rw [List.filterMap_cons_none hnone]
      exact ih
  | @failed _ _ d _ call _ _ _ hcall fault hanswer _ ih =>
      have hdirective : call.directive = d := by rw [hcall]; rfl
      have hsome : call.failure? = some ⟨d, fault.message⟩ := by
        rw [Handover.failure?, hanswer, hdirective]
      rw [List.filterMap_cons_some hsome, ← ih]

end Course

/-! ## Settlements whose directives fit -/

section
variable {g : Grant} {evaluator : PolicyEvaluator} {directives : List Directive}

theorem settle_of_fits (manager : PoolManager σ) (state : σ)
    (hanswer : (evaluator Operation.postEntitlement (.grant g.snapshot)).outcome =
      .ok (.directives directives))
    (hfits : ∀ d ∈ directives, g.Fits d) :
    (g.settle evaluator manager state).result =
        .ok (apply manager g.consumer state directives).1 ∧
      (g.settle evaluator manager state).state =
        (apply manager g.consumer state directives).2 := by
  have hcarried : g.carryOut manager state directives = _ := carryOut_of_fits hfits
  have hconcluded : g.conclude manager state (.ok (.directives directives)) =
      g.carryOut manager state directives := rfl
  simp only [settle, hanswer, hconcluded, hcarried, and_self]

theorem handovers_of_fits (manager : PoolManager σ) (state : σ)
    (hanswer : (evaluator Operation.postEntitlement (.grant g.snapshot)).outcome =
      .ok (.directives directives))
    (hfits : ∀ d ∈ directives, g.Fits d) :
    g.handovers evaluator manager state = journal manager g.consumer state directives := by
  have hstate := (settle_of_fits manager.recorded (state, []) hanswer hfits).2
  rw [handovers, hstate, apply_recorded]
  exact List.nil_append _

end

/-- If the policy answers with directives that all fit, the settlement succeeds. Each directive is
applied, skipped or failed, and each of these lists keeps their order. Skipped are the directives
to make bonus pools if the consumer is a manifest, and none otherwise. Every other directive is
handed to the manager once, in order, and in the state that the call before left; it is applied
if this call succeeds, and failed, with the words of the manager, if it does not. -/
theorem settle_accounts_for_all (g : Grant) (evaluator : PolicyEvaluator)
    (manager : PoolManager σ) (state : σ) (directives : List Directive)
    (hanswer : (evaluator Operation.postEntitlement (.grant g.snapshot)).outcome =
      .ok (.directives directives))
    (hfits : ∀ d ∈ directives, g.Fits d) :
    let outcome := g.settle evaluator manager state
    let calls := g.handovers evaluator manager state
    ∃ report : SettlementReport, outcome.result = .ok report ∧
      report.policyConfigured = true ∧
      Interleaved report.applied report.skipped (report.failed.map (·.directive)) directives ∧
      report.applied.Sublist directives ∧ report.skipped.Sublist directives ∧
      (report.failed.map (·.directive)).Sublist directives ∧
      report.skipped =
        (if g.consumer.isManifest then directives.filter (·.makesBonusPool) else []) ∧
      calls.map (·.directive) =
        directives.filter (fun d => !(g.consumer.isManifest && d.makesBonusPool)) ∧
      Consecutive manager g.consumer state calls outcome.state ∧
      report.applied = (calls.filter (·.succeeded)).map (·.directive) ∧
      report.failed = calls.filterMap (·.failure?) := by
  intro outcome calls
  obtain ⟨hresult, hstate⟩ := settle_of_fits manager state hanswer hfits
  have hcalls : calls = journal manager g.consumer state directives :=
    handovers_of_fits manager state hanswer hfits
  have hcourse := course manager g.consumer state directives
  rw [← hcalls, ← hstate] at hcourse
  have hinterleaved := hcourse.interleaved
  obtain ⟨happlied, hskipped, hfailed⟩ := hinterleaved.sublists
  refine ⟨_, hresult, hcourse.policyConfigured, hinterleaved, happlied, hskipped, hfailed, ?_, ?_,
    hcourse.consecutive, hcourse.applied_eq, hcourse.failed_eq⟩
  · rw [hcourse.skipped_eq, funext (skips_eq g.consumer)]
    cases g.consumer.isManifest with
    | true => simp
    | false => simp
  · rw [hcalls, directives_journal, funext (skips_eq g.consumer)]

/-- A manager that counts its calls and follows the first one, the third one and so on. -/
def everyOther : PoolManager Nat := fun count _ _ =>
  (if count % 2 = 0 then .ok () else .error (.poolNotFound "sub"), count + 1)

/-- A grant to a manifest, with a sub-pool for one stack. -/
def toManifest : Grant where
  consumer := ⟨"m", .manifest, .empty, .empty, none⟩
  entitlements := .ofList [("e", ⟨"e", "m", Native.yearly "web" 10 [], 2⟩)]
  subPools := .ofList [("stack", Native.yearly "sub" 10 [])]
  success := true
  draws := .empty

/-- Directives of both kinds, of which two stand twice. -/
def repeated : List Directive :=
  [.createBonusPool "web" 4, .updateSubPool "stack" "sub" 2, .createBonusPool "web" 4,
    .updateSubPool "stack" "sub" 2, .updateSubPool "stack" "sub" 3]

theorem settle_accounts_for_all_repeated :
    (∀ d ∈ repeated, toManifest.Fits d) ∧
      ∃ report : SettlementReport,
        (toManifest.settle (.always (.ok (.directives repeated))) everyOther 0).result =
          .ok report ∧
        Interleaved report.applied report.skipped (report.failed.map (·.directive)) repeated ∧
        report.skipped = [.createBonusPool "web" 4, .createBonusPool "web" 4] ∧
        (toManifest.handovers (.always (.ok (.directives repeated))) everyOther 0).map
          (·.directive) =
            [.updateSubPool "stack" "sub" 2, .updateSubPool "stack" "sub" 2,
              .updateSubPool "stack" "sub" 3] := by
  have hfits : ∀ d ∈ repeated, toManifest.Fits d := by
    have hchecked : ∀ d ∈ repeated, toManifest.defect? d = none := by decide
    exact fun d hd => defect?_eq_none_iff.mp (hchecked d hd)
  obtain ⟨report, hresult, -, hinterleaved, -, -, -, hskipped, hcalls, -⟩ :=
    settle_accounts_for_all toManifest (.always (.ok (.directives repeated))) everyOther 0
      repeated rfl hfits
  exact ⟨hfits, report, hresult, hinterleaved, hskipped, hcalls⟩

end Grant

end Allotment
