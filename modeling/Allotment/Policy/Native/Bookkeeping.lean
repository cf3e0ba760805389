import Allotment.Policy.Evaluator

/-!
# Bookkeeping after a grant

A granted pool with a limit of virtual guests brings a bonus pool of that many entitlements for
each one granted, but not for a manifest, and not if the pool is a bonus itself. Entitlements of
one stack are added up, and the sub-pool of the stack is told the sum.
-/

namespace Allotment.Native

def isDerived (pool : PoolView) : Bool :=
  match pool.attribute? Attribute.derivedPool with
  | some value => Text.sameLetters value "true"
  | none => false

/-- The limit of virtual guests, the pool's own before that of its product. -/
def virtLimit? (pool : PoolView) : Option String :=
  match pool.attribute? Attribute.virtLimit with
  | some limit => some limit
  | none => pool.productAttribute? Attribute.virtLimit

/-- The quantity of the bonus pool for a limit and a granted quantity. -/
def bonusQuantity? (limit : String) (quantity : UInt32) : Option Amount :=
  if Text.sameLetters limit "unlimited" then some Pool.unlimited
  else
    match Amount.read? limit with
    | some n => if 0 < n.val then some (n.mul (.ofUnits quantity)) else none
    | none => none

/-- The limit that decides on a bonus pool, where one can come of the entitlement. -/
def bonusLimit? (consumer : ConsumerView) (e : EntitlementView) : Option String :=
  if consumer.isManifest || isDerived e.pool then none else virtLimit? e.pool

def bonusDirective? (consumer : ConsumerView) (e : EntitlementView) : Option Directive := do
  let limit ← bonusLimit? consumer e
  let quantity ← bonusQuantity? limit e.quantity
  return .createBonusPool e.pool.id quantity

/-- A limit that is there and cannot be used is logged. -/
def bonusLine? (consumer : ConsumerView) (e : EntitlementView) : Option LogLine := do
  let limit ← bonusLimit? consumer e
  match bonusQuantity? limit e.quantity with
  | some _ => none
  | none =>
      some ⟨.warn, "pool '" ++ e.pool.id ++ "' has unusable virt_limit '" ++ limit ++ "'"⟩

/-- Adds an entitlement to the total of its stack, where it has one. -/
def addToStack (totals : Table Amount) (e : EntitlementView) : Table Amount :=
  match e.pool.productAttribute? Attribute.stackingId with
  | some stackId =>
      totals.insert stackId (((totals.get? stackId).getD 0).add (.ofUnits e.quantity))
  | none => totals

/-- The quantities granted in each stack. -/
def stackTotals (entitlements : List EntitlementView) : Table Amount :=
  entitlements.foldl addToStack .empty

/-- The sub-pools of the stacks that have one, with the totals. -/
def stackDirectives (s : GrantSnapshot) : List Directive :=
  (stackTotals s.entitlements.values).entries.filterMap fun total =>
    (s.subPools.get? total.1).map fun subPool => .updateSubPool total.1 subPool.id total.2

def bonusDirectives (s : GrantSnapshot) : List Directive :=
  s.entitlements.values.filterMap (bonusDirective? s.consumer)

def directives (s : GrantSnapshot) : List Directive := bonusDirectives s ++ stackDirectives s

def directivesLog (s : GrantSnapshot) : List LogLine :=
  s.entitlements.values.filterMap (bonusLine? s.consumer)

end Allotment.Native
