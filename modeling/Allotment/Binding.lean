import Allotment.Binding.Candidates
import Allotment.Policy.Evaluator

/-!
# Binding

A binding picks the pools, and how much of each, that are to cover a consumer's installed
products. A policy is shown the candidates and selects among them; only where none is configured
is every candidate taken once. What a policy selects is checked: no pool may stand twice, and the
quantity of a candidate must be one that can be drawn. Selected pools that are no candidates are
passed over.
-/

namespace Allotment

/-- For whom pools are to be picked, and among which. -/
structure Binding where
  consumer : Consumer
  productIds : List String
  pools : List Pool
  compliance : Compliance
  serviceLevelOverride : Option String
  exemptLevels : NameSet

inductive BindingError where
  /-- No pool is a candidate. -/
  | noEligiblePools (productIds : List String)
  /-- The policy selected nothing. -/
  | nothingSelected (productIds : List String)
  /-- The policy selected pools, but no candidate. -/
  | noCandidateSelected (productIds : List String)
  | selectedTwice (poolId : String)
  | invalidQuantity (poolId : String) (quantity : Amount)
  /-- The policy answered with directives. -/
  | directivesReturned
  | policyFault (fault : PolicyFault)
  deriving DecidableEq, Repr

namespace BindingError

/-- The kind of an error, as it is written. -/
def kind : BindingError → String
  | noEligiblePools _ => "no_eligible_pools"
  | nothingSelected _ | noCandidateSelected _ => "no_selection"
  | selectedTwice _ | invalidQuantity _ _ | directivesReturned => "invalid_policy_output"
  | policyFault _ => "policy_fault"

def listed (productIds : List String) : String :=
  "[" ++ String.intercalate ", " productIds ++ "]"

def message : BindingError → String
  | noEligiblePools ids => "no entitlements for products: " ++ listed ids
  | nothingSelected ids => "rule did not select a pool for products: " ++ listed ids
  | noCandidateSelected ids => "rule selected no candidate pool for products: " ++ listed ids
  | selectedTwice id => "pool '" ++ id ++ "' was selected more than once"
  | invalidQuantity id quantity =>
      "pool '" ++ id ++ "' was selected with invalid quantity " ++ toString quantity.val
  | directivesReturned =>
      Operation.selectPools ++
        " returned post-entitlement directives instead of a pool mapping"
  | policyFault fault => "pool selection policy failed: " ++ fault.message

/-- The fault of the policy behind an error, where there is one. -/
def fault? : BindingError → Option PolicyFault
  | policyFault fault => some fault
  | _ => none

def toDocument (e : BindingError) : Document :=
  .record [("kind", .text e.kind), ("message", .text e.message)]

end BindingError

/-- What a binding came to, with the questions to the policy and what it logged. -/
structure BindingOutcome where
  result : Except BindingError (List Draw)
  calls : List PolicyCall
  log : List LogLine

namespace Binding

def snapshot (b : Binding) (candidates : List Pool) : SelectionSnapshot where
  consumer := .of b.consumer b.serviceLevelOverride
  pools := candidates.map PoolView.of
  products := b.productIds.map ProductView.placeholder
  separator := Attribute.separator
  compliance := b.compliance
  exemptLevels := b.exemptLevels

/-- A draw of an amount, where it is a quantity that can be drawn. -/
def drawOf? (pool : Pool) (quantity : Amount) : Option Draw :=
  if 0 < quantity.val ∧ quantity.val < UInt32.size then
    Draw.of? pool (UInt32.ofNat quantity.val.toNat)
  else none

/-- Takes the selections one after the other; `seen` holds the ids of those before. -/
def drawsFrom (candidates : Table Pool) (seen : List String) :
    List Selection → Except BindingError (List Draw)
  | [] => .ok []
  | s :: rest =>
      if seen.contains s.poolId then .error (.selectedTwice s.poolId)
      else
        match candidates.get? s.poolId with
        | none => drawsFrom candidates (s.poolId :: seen) rest
        | some pool =>
            match drawOf? pool s.quantity with
            | none => .error (.invalidQuantity s.poolId s.quantity)
            | some draw =>
                match drawsFrom candidates (s.poolId :: seen) rest with
                | .ok draws => .ok (draw :: draws)
                | .error e => .error e

/-- The draws that a selection stands for; of candidates with one id the last one is meant. -/
def resolve (productIds : List String) (candidates : List Pool)
    (selections : Option (List Selection)) : Except BindingError (List Draw) :=
  match selections.getD [] with
  | [] => .error (.nothingSelected productIds)
  | selected =>
      match drawsFrom (Table.ofList (candidates.map fun p => (p.id, p))) [] selected with
      | .ok [] => .error (.noCandidateSelected productIds)
      | result => result

/-- What the answer of the policy comes to. -/
def conclude (productIds : List String) (candidates : List Pool) :
    Except PolicyFault PolicyOutput → Except BindingError (List Draw)
  | .error fault => .error (.policyFault fault)
  | .ok .notConfigured => .ok (candidates.map fun p => ⟨p, 1, by decide⟩)
  | .ok (.selection selections) => resolve productIds candidates selections
  | .ok (.directives _) => .error .directivesReturned

def run (b : Binding) (filter : ContentFilter) (evaluator : PolicyEvaluator) : BindingOutcome :=
  match filter.candidates b.consumer b.pools with
  | [] => ⟨.error (.noEligiblePools b.productIds), [], []⟩
  | candidates =>
      let call : PolicyCall := ⟨Operation.selectPools, .selection (b.snapshot candidates)⟩
      let reply := evaluator call.operation call.snapshot
      ⟨conclude b.productIds candidates reply.outcome, [call], reply.log⟩

end Binding

end Allotment
