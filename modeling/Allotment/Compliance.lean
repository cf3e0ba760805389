import Allotment.Document.Fields

/-!
# Compliance

How far each installed product of a consumer is covered by entitlements it already has. A
product without an entry is uncovered.
-/

namespace Allotment

inductive Coverage where
  | covered
  | partially
  | uncovered
  deriving DecidableEq, Repr

namespace Coverage

def word : Coverage → String
  | covered => "covered"
  | partially => "partial"
  | uncovered => "uncovered"

def ofWord? : String → Option Coverage
  | "covered" => some covered
  | "partial" => some partially
  | "uncovered" => some uncovered
  | _ => none

theorem ofWord?_word (state : Coverage) : ofWord? state.word = some state := by
  cases state <;> rfl

end Coverage

structure Compliance where
  products : Table Coverage
  exemptServiceLevels : NameSet
  deriving DecidableEq, Repr

namespace Compliance

def empty : Compliance := ⟨.empty, .empty⟩

def coverage (c : Compliance) (productId : String) : Coverage :=
  (c.products.get? productId).getD .uncovered

def isCovered (c : Compliance) (productId : String) : Bool :=
  c.coverage productId == .covered

def ofDocument? (d : Document) : Option Compliance := do
  let fields ← d.readMembers?
  let products ← Document.optional "products" fields .empty
    (Document.readTable? (Document.readWord? Coverage.ofWord?))
  let exemptServiceLevels ←
    Document.optional "exempt_service_levels" fields .empty Document.readNames?
  return { products, exemptServiceLevels }

def toDocument (c : Compliance) : Document :=
  .record [
    ("products", .ofTable (fun state => .text state.word) c.products),
    ("exempt_service_levels", .ofNames c.exemptServiceLevels)]

end Compliance

end Allotment
