import Allotment.Policy.Snapshot

/-!
# Policy evaluators

A policy is asked by the name of an operation and a snapshot. It selects pools, directs what is
to be done after a grant, says that it does not know the operation, or fails; beside its answer
stand the lines that it wrote to the log.
-/

namespace Allotment

inductive LogLevel where
  | debug
  | info
  | warn
  deriving DecidableEq, Repr

namespace LogLevel

def word : LogLevel → String
  | debug => "debug"
  | info => "info"
  | warn => "warn"

end LogLevel

structure LogLine where
  level : LogLevel
  message : String
  deriving DecidableEq, Repr

structure Selection where
  poolId : String
  quantity : Amount
  deriving DecidableEq, Repr

/-- What is to be done after a grant. -/
inductive Directive where
  /-- Gives the sub-pool of a stack a new quantity. -/
  | updateSubPool (stackId poolId : String) (quantity : Amount)
  /-- Makes a bonus pool out of the pool that was granted from. -/
  | createBonusPool (sourcePoolId : String) (quantity : Amount)
  deriving DecidableEq, Repr

inductive PolicyOutput where
  /-- The policy does not know the operation. -/
  | notConfigured
  /-- The pools to take, in order; none where the policy ran and came to nothing. -/
  | selection (selections : Option (List Selection))
  | directives (directives : List Directive)
  deriving DecidableEq, Repr

inductive FaultKind where
  | execution
  | unsupportedArguments
  deriving DecidableEq, Repr

/-- The failure of a policy operation. -/
structure PolicyFault where
  kind : FaultKind
  operation : String
  detail : String
  deriving DecidableEq, Repr

namespace PolicyFault

def message (fault : PolicyFault) : String :=
  "policy operation '" ++ fault.operation ++
    (match fault.kind with
      | .execution => "' failed: "
      | .unsupportedArguments => "' received arguments it cannot handle: ") ++
    fault.detail

end PolicyFault

structure PolicyReply where
  outcome : Except PolicyFault PolicyOutput
  log : List LogLine

abbrev PolicyEvaluator := String → Snapshot → PolicyReply

/-- One question to an evaluator. -/
structure PolicyCall where
  operation : String
  snapshot : Snapshot
  deriving DecidableEq, Repr

namespace PolicyEvaluator

/-- Knows no operation. -/
def unconfigured : PolicyEvaluator := fun _ _ => ⟨.ok .notConfigured, []⟩

/-- Answers the same to every question. -/
def always (outcome : Except PolicyFault PolicyOutput) : PolicyEvaluator := fun _ _ => ⟨outcome, []⟩

end PolicyEvaluator

/-! ## Written forms -/

namespace Selection

def ofDocument? (d : Document) : Option Selection := do
  let fields ← d.readMembers?
  let poolId ← Document.required "pool_id" fields Document.readText?
  let quantity ← Document.required "quantity" fields Document.readAmount?
  return { poolId, quantity }

def toDocument (s : Selection) : Document :=
  .record [("pool_id", .text s.poolId), ("quantity", .ofAmount s.quantity)]

end Selection

namespace Directive

inductive Kind where
  | updateSubPool
  | createBonusPool
  deriving DecidableEq, Repr

namespace Kind

def word : Kind → String
  | updateSubPool => "update_sub_pool_quantity"
  | createBonusPool => "create_bonus_pool"

/-- A kind is named by its word, or by its number counted from zero. -/
def ofDocument? : Document → Option Kind
  | .text "update_sub_pool_quantity" | .integer 0 => some updateSubPool
  | .text "create_bonus_pool" | .integer 1 => some createBonusPool
  | _ => none

theorem ofDocument?_word (kind : Kind) : ofDocument? (.text kind.word) = some kind := by
  cases kind <;> rfl

end Kind

def ofDocument? (d : Document) : Option Directive := do
  let fields ← d.readMembers?
  match ← Document.required "type" fields Kind.ofDocument? with
  | .updateSubPool => do
      let stackId ← Document.required "stack_id" fields Document.readText?
      let poolId ← Document.required "pool_id" fields Document.readText?
      let quantity ← Document.required "quantity" fields Document.readAmount?
      return updateSubPool stackId poolId quantity
  | .createBonusPool => do
      let sourcePoolId ← Document.required "source_pool_id" fields Document.readText?
      let quantity ← Document.required "quantity" fields Document.readAmount?
      return createBonusPool sourcePoolId quantity

def toDocument : Directive → Document
  | updateSubPool stackId poolId quantity =>
      .record [
        ("type", .text Kind.updateSubPool.word),
        ("stack_id", .text stackId),
        ("pool_id", .text poolId),
        ("quantity", .ofAmount quantity)]
  | createBonusPool sourcePoolId quantity =>
      .record [
        ("type", .text Kind.createBonusPool.word),
        ("source_pool_id", .text sourcePoolId),
        ("quantity", .ofAmount quantity)]

end Directive

namespace PolicyOutput

def ofDocument? (d : Document) : Option PolicyOutput := do
  let fields ← d.readMembers?
  match ← Document.required "type" fields Document.readText? with
  | "not_configured" => some notConfigured
  | "selection" =>
      (Document.nullable "selections" fields
        (Document.readList? Selection.ofDocument?)).map selection
  | "directives" =>
      (Document.required "directives" fields
        (Document.readList? Directive.ofDocument?)).map directives
  | _ => none

def toDocument : PolicyOutput → Document
  | notConfigured => .record [("type", .text "not_configured")]
  | selection selections =>
      .record [
        ("type", .text "selection"),
        ("selections", .ofNullable (.ofList Selection.toDocument) selections)]
  | directives ds =>
      .record [
        ("type", .text "directives"),
        ("directives", .ofList Directive.toDocument ds)]

end PolicyOutput

end Allotment
