import Allotment.Pool

/-!
# Entitlements

An entitlement is a quantity of a pool that has been granted to a consumer; a draw is a
positive quantity that is to be taken from one.
-/

namespace Allotment

structure Entitlement where
  id : String
  consumerId : String
  pool : Pool
  quantity : UInt32
  deriving DecidableEq, Repr

structure Draw where
  pool : Pool
  quantity : UInt32
  positive : 0 < quantity
  deriving DecidableEq, Repr

namespace Entitlement

def ofDocument? (d : Document) : Option Entitlement := do
  let fields ← d.readMembers?
  let id ← Document.required "id" fields Document.readText?
  let consumerId ← Document.required "consumer_id" fields Document.readText?
  let pool ← Document.required "pool" fields Pool.ofDocument?
  let quantity ← Document.required "quantity" fields Document.readUnits?
  return { id, consumerId, pool, quantity }

end Entitlement

namespace Draw

/-- A draw of the quantity; there is none of zero. -/
def of? (pool : Pool) (quantity : UInt32) : Option Draw :=
  if h : 0 < quantity then some ⟨pool, quantity, h⟩ else none

def toDocument (draw : Draw) : Document :=
  .record [("pool", draw.pool.toDocument), ("quantity", .ofUnits draw.quantity)]

theorem of?_isSome {pool : Pool} {quantity : UInt32} :
    (of? pool quantity).isSome = true ↔ 0 < quantity := by
  unfold of?
  split <;> simp [*]

end Draw

namespace Entitlement

/-- What has been drawn from each pool. Of entitlements to one pool the last one counts, and none
of quantity zero does. -/
def draws (entitlements : Table Entitlement) : Table Draw :=
  Table.ofList (entitlements.values.filterMap fun e =>
    (Draw.of? e.pool e.quantity).map (e.pool.id, ·))

end Entitlement

end Allotment
