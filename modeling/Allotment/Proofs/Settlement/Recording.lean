import Allotment.Settlement

/-!
# Recording what a pool manager is called with

What a settlement does to its manager is seen by putting a recording one in the manager's place,
which notes each call beside the state. Recording changes nothing else (`settle_recorded`), and
what is noted while directives are applied is their `journal`.
-/

namespace Allotment

variable {σ : Type}

/-- One call of a pool manager, with the state before it and the state after it. -/
structure Handover (σ : Type) where
  before : σ
  consumer : Consumer
  directive : Directive
  answer : Except PoolManagerFault Unit
  after : σ

/-- The call that is made in the given state. -/
def PoolManager.handover (manager : PoolManager σ) (state : σ) (consumer : Consumer)
    (directive : Directive) : Handover σ :=
  ⟨state, consumer, directive, (manager state consumer directive).1,
    (manager state consumer directive).2⟩

/-- The same manager, but it notes its calls. -/
def PoolManager.recorded (manager : PoolManager σ) : PoolManager (σ × List (Handover σ)) :=
  fun noted consumer directive =>
    let call := manager.handover noted.1 consumer directive
    (call.answer, call.after, noted.2 ++ [call])

namespace Grant

variable {g : Grant} {manager : PoolManager σ} {consumer : Consumer}

/-- The calls for directives that are applied one after the other. -/
def journal (manager : PoolManager σ) (consumer : Consumer) (state : σ) :
    List Directive → List (Handover σ)
  | [] => []
  | d :: ds =>
      if skips consumer d then journal manager consumer state ds
      else
        let call := manager.handover state consumer d
        call :: journal manager consumer call.after ds

theorem directives_journal (state : σ) (directives : List Directive) :
    (journal manager consumer state directives).map (·.directive) =
      directives.filter fun d => !skips consumer d := by
  induction directives generalizing state with
  | nil => rfl
  | cons d ds ih =>
      unfold journal
      cases hskips : skips consumer d with
      | true =>
          rw [if_pos rfl, List.filter_cons_of_neg (by simp [hskips])]
          exact ih state
      | false =>
          rw [if_neg Bool.false_ne_true, List.filter_cons_of_pos (by simp [hskips])]
          exact congrArg (d :: ·) (ih _)

theorem apply_recorded (state : σ) (noted : List (Handover σ)) (directives : List Directive) :
    apply manager.recorded consumer (state, noted) directives =
      ((apply manager consumer state directives).1,
        (apply manager consumer state directives).2,
        noted ++ journal manager consumer state directives) := by
  induction directives generalizing state noted with
  | nil => simp [apply, journal]
  | cons d ds ih =>
      unfold apply journal
      cases hskips : skips consumer d with
      | true =>
          simp only [if_true]
          rw [ih]
      | false =>
          rcases hcall : manager state consumer d with ⟨answer, next⟩
          simp only [Bool.false_eq_true, if_false, PoolManager.recorded, PoolManager.handover,
            hcall]
          cases answer with
          | ok done => simp only [ih, List.append_assoc, List.singleton_append]
          | error fault => simp only [ih, List.append_assoc, List.singleton_append]

theorem conclude_recorded (state : σ) (noted : List (Handover σ))
    (answer : Except PolicyFault PolicyOutput) :
    (g.conclude manager.recorded (state, noted) answer).1 = (g.conclude manager state answer).1 ∧
      (g.conclude manager.recorded (state, noted) answer).2.1 =
        (g.conclude manager state answer).2 := by
  cases answer with
  | error fault => exact ⟨rfl, rfl⟩
  | ok output =>
      cases output with
      | notConfigured => exact ⟨rfl, rfl⟩
      | selection selections => exact ⟨rfl, rfl⟩
      | directives directives =>
          simp only [conclude, carryOut]
          split
          · exact ⟨rfl, rfl⟩
          · rw [apply_recorded]
            exact ⟨rfl, rfl⟩

variable (g)

/-- A settlement with a recording manager comes to the same, and leaves the same state. -/
theorem settle_recorded (evaluator : PolicyEvaluator) (manager : PoolManager σ) (state : σ) :
    (g.settle evaluator manager.recorded (state, [])).result =
        (g.settle evaluator manager state).result ∧
      (g.settle evaluator manager.recorded (state, [])).state.1 =
        (g.settle evaluator manager state).state :=
  conclude_recorded state [] _

/-- The calls that a settlement makes, as a recording manager notes them. -/
def handovers (evaluator : PolicyEvaluator) (manager : PoolManager σ) (state : σ) :
    List (Handover σ) :=
  (g.settle evaluator manager.recorded (state, [])).state.2

end Grant

end Allotment
