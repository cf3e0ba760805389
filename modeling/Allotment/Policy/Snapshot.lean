import Allotment.Compliance
import Allotment.Policy.View

/-!
# Snapshots

The arguments of a policy operation: what is known when pools are to be selected, and what is
known after a grant.
-/

namespace Allotment

namespace Operation

def selectPools : String := "select_pools"

def postEntitlement : String := "post_entitlement"

end Operation

structure SelectionSnapshot where
  consumer : ConsumerView
  pools : List PoolView
  products : List ProductView
  /-- What stands between the values of an attribute with several of them. -/
  separator : String
  compliance : Compliance
  exemptLevels : NameSet
  deriving DecidableEq, Repr

structure GrantSnapshot where
  consumer : ConsumerView
  entitlements : Table EntitlementView
  /-- The pool that a stack of entitlements has been given, by the id of the stack. -/
  subPools : Table PoolView
  success : Bool
  poolQuantities : Table UInt32
  deriving DecidableEq, Repr

inductive Snapshot where
  | selection (snapshot : SelectionSnapshot)
  | grant (snapshot : GrantSnapshot)
  deriving DecidableEq, Repr

namespace Snapshot

/-- The operation that a snapshot belongs to. -/
def operation : Snapshot → String
  | selection _ => Operation.selectPools
  | grant _ => Operation.postEntitlement

def fields : Snapshot → List (String × Document)
  | selection s => [
      ("consumer", s.consumer.toDocument),
      ("pools", .ofList PoolView.toDocument s.pools),
      ("products", .ofList ProductView.toDocument s.products),
      ("attribute_separator", .text s.separator),
      ("compliance", s.compliance.toDocument),
      ("exempt_levels", .ofNames s.exemptLevels)]
  | grant s => [
      ("consumer", s.consumer.toDocument),
      ("entitlements", .ofTable EntitlementView.toDocument s.entitlements),
      ("sub_pools_for_stack_ids", .ofTable PoolView.toDocument s.subPools),
      ("success", .bool s.success),
      ("pool_quantities", .ofTable .ofUnits s.poolQuantities)]

def toDocument (s : Snapshot) : Document :=
  .record (("operation", .text s.operation) :: s.fields)

end Snapshot

end Allotment
