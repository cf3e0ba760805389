import Allotment.Document.Fields

/-!
# Products and their catalogue

A product provides content sets. The catalogue holds one product for each id; of products given
with the same id it keeps the last.
-/

namespace Allotment

structure Product where
  id : String
  name : String
  attributes : Table String
  content : NameSet
  deriving DecidableEq, Repr

namespace Product

/-- The number of different content sets. -/
def contentCount (p : Product) : Nat := p.content.size

def ofDocument? (d : Document) : Option Product := do
  let fields ← d.readMembers?
  let id ← Document.required "id" fields Document.readText?
  let name ← Document.required "name" fields Document.readText?
  let attributes ← Document.optional "attributes" fields .empty Document.readTexts?
  let content ← Document.optional "content" fields .empty Document.readNames?
  return { id, name, attributes, content }

def toDocument (p : Product) : Document :=
  .record [
    ("id", .text p.id),
    ("name", .text p.name),
    ("attributes", .ofTexts p.attributes),
    ("content", .ofNames p.content)]

end Product

abbrev Catalogue := Table Product

namespace Catalogue

def ofProducts (products : List Product) : Catalogue :=
  Table.ofList (products.map fun p => (p.id, p))

/-- The content count of the product with the id, none where it is missing. -/
def contentCount (catalogue : Catalogue) (productId : String) : Nat :=
  match catalogue.get? productId with
  | some p => p.contentCount
  | none => 0

end Catalogue

end Allotment
