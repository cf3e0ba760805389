import Allotment.Calendar.Notation
import Allotment.Document.Fields
import Allotment.Text.Blank
import Allotment.Text.LetterCase

/-!
# Pools

A pool holds a quantity of entitlements to a product and to the products that come with it. Its
own attributes and those of its product say on which consumers it may be used. A quantity of
`-1` is without limit; of any other quantity what is left is the difference to what has been
consumed.
-/

namespace Allotment

/-! ## Names of attributes -/

namespace Attribute

def cores : String := "cores"

def ram : String := "ram"

def sockets : String := "sockets"

def instanceMultiplier : String := "instance_multiplier"

def virtOnly : String := "virt_only"

def physicalOnly : String := "physical_only"

def derivedPool : String := "pool_derived"

def requiresHost : String := "requires_host"

def stackingId : String := "stacking_id"

def architecture : String := "arch"

def supportLevel : String := "support_level"

def virtLimit : String := "virt_limit"

/-- What stands between the values of an attribute with several of them. -/
def separator : String := ","

end Attribute

structure ProvidedProduct where
  productId : String
  productName : String
  deriving DecidableEq, Repr

structure Pool where
  id : String
  productId : String
  derivedProductId : Option String
  quantity : Amount
  consumed : Amount
  attributes : Table String
  productAttributes : Table String
  providedProducts : List ProvidedProduct
  startDate : Timestamp
  endDate : Timestamp
  deriving DecidableEq, Repr

namespace Pool

/-- The quantity that stands for no limit. -/
def unlimited : Amount := -1

def isUnlimited (p : Pool) : Bool := p.quantity == unlimited

/-- What is left of the quantity; negative where more has been consumed than there was. -/
def remaining (p : Pool) : Amount := p.quantity.sub p.consumed

/-- What can still be granted; none for a pool without limit. -/
def available? (p : Pool) : Option Amount :=
  if p.isUnlimited then none
  else if p.remaining.val < 0 then some 0
  else some p.remaining

/-- The trimmed value of an attribute of the pool; a blank one counts as absent. -/
def attribute? (p : Pool) (name : String) : Option String :=
  (p.attributes.get? name).bind Text.nonBlank?

/-- The trimmed value of an attribute of the product; a blank one counts as absent. -/
def productAttribute? (p : Pool) (name : String) : Option String :=
  (p.productAttributes.get? name).bind Text.nonBlank?

/-- A value switches something on: `true` in any case of letters, or `1`. -/
def isOn : Option String → Bool
  | some value => Text.sameLetters value "true" || value == "1"
  | none => false

/-- The pool or its product switches the attribute on. -/
def flag (p : Pool) (name : String) : Bool :=
  isOn (p.attribute? name) || isOn (p.productAttribute? name)

def isVirtOnly (p : Pool) : Bool := p.flag Attribute.virtOnly

def isPhysicalOnly (p : Pool) : Bool := p.flag Attribute.physicalOnly

/-- The pool itself was made as a bonus of another one. -/
def isDerived (p : Pool) : Bool := isOn (p.attribute? Attribute.derivedPool)

def requiresHost (p : Pool) : Bool := (p.attribute? Attribute.requiresHost).isSome

def hasDerivedProduct (p : Pool) : Bool :=
  match p.derivedProductId with
  | some id => (Text.nonBlank? id).isSome
  | none => false

def stackingId? (p : Pool) : Option String := p.productAttribute? Attribute.stackingId

def providedIds (p : Pool) : List String := p.providedProducts.map (·.productId)

/-- The pool entitles to the product, as its own or as one that comes with it. -/
def provides (p : Pool) (productId : String) : Bool :=
  p.productId == productId || p.providedIds.contains productId

end Pool

namespace ProvidedProduct

def ofDocument? (d : Document) : Option ProvidedProduct := do
  let fields ← d.readMembers?
  let productId ← Document.required "product_id" fields Document.readText?
  let productName ← Document.optional "product_name" fields "" Document.readText?
  return { productId, productName }

def toDocument (p : ProvidedProduct) : Document :=
  .record [("product_id", .text p.productId), ("product_name", .text p.productName)]

end ProvidedProduct

namespace Pool

def ofDocument? (d : Document) : Option Pool := do
  let fields ← d.readMembers?
  let id ← Document.required "id" fields Document.readText?
  let productId ← Document.required "product_id" fields Document.readText?
  let derivedProductId ← Document.nullable "derived_product_id" fields Document.readText?
  let quantity ← Document.required "quantity" fields Document.readAmount?
  let consumed ← Document.optional "consumed" fields 0 Document.readAmount?
  let attributes ← Document.optional "attributes" fields .empty Document.readTexts?
  let productAttributes ←
    Document.optional "product_attributes" fields .empty Document.readTexts?
  let providedProducts ←
    Document.optional "provided_products" fields []
      (Document.readList? ProvidedProduct.ofDocument?)
  let startDate ← Document.required "start_date" fields Timestamp.ofDocument?
  let endDate ← Document.required "end_date" fields Timestamp.ofDocument?
  return { id, productId, derivedProductId, quantity, consumed, attributes, productAttributes,
           providedProducts, startDate, endDate }

def toDocument (p : Pool) : Document :=
  .record [
    ("id", .text p.id),
    ("product_id", .text p.productId),
    ("derived_product_id", .ofNullable .text p.derivedProductId),
    ("quantity", .ofAmount p.quantity),
    ("consumed", .ofAmount p.consumed),
    ("attributes", .ofTexts p.attributes),
    ("product_attributes", .ofTexts p.productAttributes),
    ("provided_products", .ofList ProvidedProduct.toDocument p.providedProducts),
    ("start_date", p.startDate.toDocument),
    ("end_date", p.endDate.toDocument)]

end Pool

end Allotment
