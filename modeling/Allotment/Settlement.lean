import Allotment.Policy.Evaluator

/-!
# Settlement

After a grant the policy directs what is to be done with the pools. All its directives are
checked first, and one that is not about what was granted stops them all; then they are handed
to the pool manager one after the other. Manifests get no bonus pools. A directive that the
manager refuses is reported and does not keep the next one from being tried. The grant itself
stands, whatever comes of this.
-/

namespace Allotment

/-- Why a pool manager does not follow a directive. -/
inductive PoolManagerFault where
  | poolNotFound (poolId : String)
  deriving DecidableEq, Repr

namespace PoolManagerFault

def message : PoolManagerFault → String
  | poolNotFound id => "pool '" ++ id ++ "' is unknown to the pool manager"

end PoolManagerFault

/-- What carries out directives; it may change its own state in doing so. -/
abbrev PoolManager (σ : Type) := σ → Consumer → Directive → Except PoolManagerFault Unit × σ

/-- What is wrong with a directive. -/
inductive DirectiveDefect where
  | unknownStack (stackId : String)
  | foreignSubPool (poolId stackId : String)
  | negativeQuantity (poolId : String) (quantity : Amount)
  | foreignSource (sourcePoolId : String)
  | unusableQuantity (sourcePoolId : String) (quantity : Amount)
  deriving DecidableEq, Repr

namespace DirectiveDefect

def message : DirectiveDefect → String
  | unknownStack stackId => "no sub-pool is known for stack '" ++ stackId ++ "'"
  | foreignSubPool poolId stackId =>
      "pool '" ++ poolId ++ "' is not the sub-pool of stack '" ++ stackId ++ "'"
  | negativeQuantity poolId quantity =>
      "sub-pool '" ++ poolId ++ "' cannot take negative quantity " ++ toString quantity.val
  | foreignSource sourcePoolId =>
      "bonus pool source '" ++ sourcePoolId ++ "' is not among the granted entitlements"
  | unusableQuantity sourcePoolId quantity =>
      "bonus pool from '" ++ sourcePoolId ++ "' has invalid quantity " ++ toString quantity.val

end DirectiveDefect

inductive SettlementError where
  | policyFault (fault : PolicyFault)
  /-- The policy answered with a selection. -/
  | selectionReturned
  | invalidDirective (defect : DirectiveDefect)
  deriving DecidableEq, Repr

namespace SettlementError

/-- The kind of an error, as it is written. -/
def kind : SettlementError → String
  | policyFault _ => "policy_fault"
  | selectionReturned => "invalid_policy_output"
  | invalidDirective _ => "invalid_directive"

def message : SettlementError → String
  | policyFault fault => Operation.postEntitlement ++ " failed: " ++ fault.message
  | selectionReturned =>
      Operation.postEntitlement ++ " returned a pool selection instead of directives"
  | invalidDirective defect => defect.message

end SettlementError

structure FailedDirective where
  directive : Directive
  error : String
  deriving DecidableEq, Repr

/-- What became of the directives, each kind in their order. -/
structure SettlementReport where
  policyConfigured : Bool
  applied : List Directive
  skipped : List Directive
  failed : List FailedDirective
  deriving DecidableEq, Repr

namespace SettlementReport

/-- There was no policy to ask. -/
def unconfigured : SettlementReport := ⟨false, [], [], []⟩

/-- A policy was asked, and nothing is done yet. -/
def configured : SettlementReport := ⟨true, [], [], []⟩

def toDocument (r : SettlementReport) : Document :=
  .record [
    ("policy_configured", .bool r.policyConfigured),
    ("applied", .ofList Directive.toDocument r.applied),
    ("skipped", .ofList Directive.toDocument r.skipped),
    ("failed", .ofList
      (fun f => .record [("directive", f.directive.toDocument), ("error", .text f.error)])
      r.failed)]

end SettlementReport

/-- What was granted, and the sub-pools of the stacks. -/
structure Grant where
  consumer : Consumer
  entitlements : Table Entitlement
  subPools : Table Pool
  success : Bool
  draws : Table Draw

/-- What a settlement came to, with the state of the manager, the questions to the policy and
what it logged. -/
structure SettlementOutcome (σ : Type) where
  result : Except SettlementError SettlementReport
  state : σ
  calls : List PolicyCall
  log : List LogLine

namespace Grant

def snapshot (g : Grant) : GrantSnapshot where
  consumer := .of g.consumer none
  entitlements := g.entitlements.map EntitlementView.of
  subPools := g.subPools.map PoolView.of
  success := g.success
  poolQuantities := g.draws.map (·.quantity)

/-- What is wrong with a directive for this grant, if anything. -/
def defect? (g : Grant) : Directive → Option DirectiveDefect
  | .updateSubPool stackId poolId quantity =>
      match g.subPools.get? stackId with
      | none => some (.unknownStack stackId)
      | some subPool =>
          if subPool.id ≠ poolId then some (.foreignSubPool poolId stackId)
          else if quantity.val < 0 then some (.negativeQuantity poolId quantity)
          else none
  | .createBonusPool sourcePoolId quantity =>
      if !g.entitlements.values.any fun e => e.pool.id == sourcePoolId then
        some (.foreignSource sourcePoolId)
      else if quantity.val ≤ 0 ∧ quantity ≠ Pool.unlimited then
        some (.unusableQuantity sourcePoolId quantity)
      else none

/-- The consumer is a manifest and the directive would make a bonus pool. -/
def skips (consumer : Consumer) : Directive → Bool
  | .createBonusPool _ _ => consumer.isManifest
  | .updateSubPool _ _ _ => false

variable {σ : Type}

/-- Hands the directives to the manager, each in the state that the one before left. -/
def apply (manager : PoolManager σ) (consumer : Consumer) (state : σ) :
    List Directive → SettlementReport × σ
  | [] => (.configured, state)
  | d :: ds =>
      if skips consumer d then
        let (report, last) := apply manager consumer state ds
        ({ report with skipped := d :: report.skipped }, last)
      else
        match manager state consumer d with
        | (.ok (), next) =>
            let (report, last) := apply manager consumer next ds
            ({ report with applied := d :: report.applied }, last)
        | (.error fault, next) =>
            let (report, last) := apply manager consumer next ds
            ({ report with failed := ⟨d, fault.message⟩ :: report.failed }, last)

/-- Checks all directives and then applies them. -/
def carryOut (g : Grant) (manager : PoolManager σ) (state : σ) (directives : List Directive) :
    Except SettlementError SettlementReport × σ :=
  match directives.findSome? g.defect? with
  | some defect => (.error (.invalidDirective defect), state)
  | none =>
      let (report, last) := apply manager g.consumer state directives
      (.ok report, last)

/-- What the answer of the policy comes to. -/
def conclude (g : Grant) (manager : PoolManager σ) (state : σ) :
    Except PolicyFault PolicyOutput → Except SettlementError SettlementReport × σ
  | .error fault => (.error (.policyFault fault), state)
  | .ok .notConfigured => (.ok .unconfigured, state)
  | .ok (.selection _) => (.error .selectionReturned, state)
  | .ok (.directives directives) => g.carryOut manager state directives

def settle (g : Grant) (evaluator : PolicyEvaluator) (manager : PoolManager σ) (state : σ) :
    SettlementOutcome σ :=
  let call : PolicyCall := ⟨Operation.postEntitlement, .grant g.snapshot⟩
  let reply := evaluator call.operation call.snapshot
  let (result, last) := g.conclude manager state reply.outcome
  ⟨result, last, [call], reply.log⟩

end Grant

end Allotment
