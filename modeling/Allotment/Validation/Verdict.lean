import Allotment.Document.Fields

/-!
# Verdicts

A verdict is what a validation says: notices that block, its errors, and notices that do not,
its warnings, each kind in the order in which they were found.
-/

namespace Allotment

/-- A resource key, under which a text for the user is found, with the parameters of the text. -/
structure Notice where
  key : String
  params : List String
  deriving DecidableEq, Repr

structure Verdict where
  errors : List Notice
  warnings : List Notice
  deriving DecidableEq, Repr

namespace Notice

def toDocument (notice : Notice) : Document :=
  .record [("resource_key", .text notice.key), ("params", .ofList .text notice.params)]

def ofDocument? (d : Document) : Option Notice := do
  let fields ← d.readMembers?
  let key ← Document.required "resource_key" fields Document.readText?
  let params ← Document.optional "params" fields [] (Document.readList? Document.readText?)
  return { key, params }

end Notice

namespace Verdict

def empty : Verdict := ⟨[], []⟩

def isSuccessful (v : Verdict) : Bool := v.errors.isEmpty

def hasWarnings (v : Verdict) : Bool := !v.warnings.isEmpty

def addError (v : Verdict) (notice : Notice) : Verdict :=
  { v with errors := v.errors ++ [notice] }

def addWarning (v : Verdict) (notice : Notice) : Verdict :=
  { v with warnings := v.warnings ++ [notice] }

/-- The notices of both, those of the first one first. -/
def merge (v w : Verdict) : Verdict := ⟨v.errors ++ w.errors, v.warnings ++ w.warnings⟩

def errorKeys (v : Verdict) : List String := v.errors.map (·.key)

def warningKeys (v : Verdict) : List String := v.warnings.map (·.key)

def toDocument (v : Verdict) : Document :=
  .record [
    ("errors", .ofList Notice.toDocument v.errors),
    ("warnings", .ofList Notice.toDocument v.warnings)]

def ofDocument? (d : Document) : Option Verdict := do
  let fields ← d.readMembers?
  let errors ← Document.required "errors" fields (Document.readList? Notice.ofDocument?)
  let warnings ← Document.required "warnings" fields (Document.readList? Notice.ofDocument?)
  return { errors, warnings }

@[simp] theorem empty_merge (v : Verdict) : empty.merge v = v := rfl

@[simp] theorem merge_empty (v : Verdict) : v.merge empty = v := by
  simp [merge, empty]

theorem merge_assoc (u v w : Verdict) : (u.merge v).merge w = u.merge (v.merge w) := by
  simp [merge]

end Verdict

end Allotment
