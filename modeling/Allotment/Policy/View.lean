import Allotment.Consumer
import Allotment.Entitlement

/-!
# Views

What a policy is shown of consumers, pools, products and entitlements. A view is a copy: it
holds what the policy may read and nothing that it could change.
-/

namespace Allotment

structure ConsumerView where
  id : String
  kind : ConsumerKind
  facts : Table String
  capabilities : NameSet
  /-- The level asked for in this case, else the consumer's own, else an empty text. -/
  serviceLevel : String
  deriving DecidableEq, Repr

structure PoolView where
  id : String
  productId : String
  derivedProductId : Option String
  quantity : Amount
  consumed : Amount
  attributes : Table String
  productAttributes : Table String
  providedIds : List String
  startDate : Timestamp
  endDate : Timestamp
  deriving DecidableEq, Repr

structure ProductView where
  id : String
  name : String
  attributes : Table String
  deriving DecidableEq, Repr

structure EntitlementView where
  id : String
  pool : PoolView
  quantity : UInt32
  deriving DecidableEq, Repr

namespace ConsumerView

/-- A blank override does not count; one that counts is trimmed, the consumer's own level is
not. -/
def of (c : Consumer) (override : Option String) : ConsumerView where
  id := c.id
  kind := c.kind
  facts := c.facts
  capabilities := c.capabilities
  serviceLevel :=
    match override.bind Text.nonBlank? with
    | some level => level
    | none => c.serviceLevel.getD ""

def fact? (c : ConsumerView) (name : String) : Option String := c.facts.get? name

def isManifest (c : ConsumerView) : Bool := c.kind == .manifest

def toDocument (c : ConsumerView) : Document :=
  .record [
    ("id", .text c.id),
    ("type", .text c.kind.word),
    ("facts", .ofTexts c.facts),
    ("capabilities", .ofNames c.capabilities),
    ("service_level", .text c.serviceLevel)]

end ConsumerView

namespace PoolView

def of (p : Pool) : PoolView where
  id := p.id
  productId := p.productId
  derivedProductId := p.derivedProductId
  quantity := p.quantity
  consumed := p.consumed
  attributes := p.attributes
  productAttributes := p.productAttributes
  providedIds := p.providedIds
  startDate := p.startDate
  endDate := p.endDate

def attribute? (p : PoolView) (name : String) : Option String :=
  (p.attributes.get? name).bind Text.nonBlank?

def productAttribute? (p : PoolView) (name : String) : Option String :=
  (p.productAttributes.get? name).bind Text.nonBlank?

def provides (p : PoolView) (productId : String) : Bool :=
  p.productId == productId || p.providedIds.contains productId

/-- What can still be granted, at least zero; none for a pool without limit. -/
def available? (p : PoolView) : Option Amount :=
  if p.quantity = Pool.unlimited then none
  else some (.clamp (max (p.quantity.sub p.consumed).val 0))

def toDocument (p : PoolView) : Document :=
  .record [
    ("id", .text p.id),
    ("product_id", .text p.productId),
    ("derived_product_id", .ofNullable .text p.derivedProductId),
    ("quantity", .ofAmount p.quantity),
    ("consumed", .ofAmount p.consumed),
    ("attributes", .ofTexts p.attributes),
    ("product_attributes", .ofTexts p.productAttributes),
    ("provided_product_ids", .ofList .text p.providedIds),
    ("start_date", p.startDate.toDocument),
    ("end_date", p.endDate.toDocument)]

end PoolView

namespace ProductView

/-- A product known by its id alone, which is then also its name. -/
def placeholder (productId : String) : ProductView := ⟨productId, productId, .empty⟩

def toDocument (p : ProductView) : Document :=
  .record [
    ("id", .text p.id),
    ("name", .text p.name),
    ("attributes", .ofTexts p.attributes)]

end ProductView

namespace EntitlementView

def of (e : Entitlement) : EntitlementView := ⟨e.id, .of e.pool, e.quantity⟩

def toDocument (e : EntitlementView) : Document :=
  .record [
    ("id", .text e.id),
    ("pool", e.pool.toDocument),
    ("quantity", .ofUnits e.quantity)]

end EntitlementView

end Allotment
