import Allotment.Document.Fields
import Allotment.Document.Json
import Allotment.Document.Written

/-!
# Schemas

A schema says which documents are acceptable: of which kind a value is, which words or numbers
it may be, and for a record what is asked of each member and whether others may stand beside
them. `violations` lists everything that is wrong with a document, in a fixed order: for one
value its word, length and number, then its members by name, then members that should not be
there, and last its kind.
-/

namespace Allotment

/-- A kind of value that a schema may ask for. -/
inductive ValueKind where
  | null
  | boolean
  | integer
  | number
  | string
  | array
  | object
  deriving DecidableEq, Repr

namespace ValueKind

def word : ValueKind → String
  | null => "null"
  | boolean => "boolean"
  | integer => "integer"
  | number => "number"
  | string => "string"
  | array => "array"
  | object => "object"

def all : List ValueKind := [null, boolean, integer, number, string, array, object]

def ofWord? (s : String) : Option ValueKind := all.find? fun kind => kind.word == s

/-- A number without a fractional part is an integer, however it is written. -/
def admits : ValueKind → Document → Bool
  | null, .null => true
  | boolean, .bool _ => true
  | integer, .integer _ => true
  | integer, .real x => x.isWhole
  | number, .integer _ => true
  | number, .real _ => true
  | string, .text _ => true
  | array, .list _ => true
  | object, .record _ => true
  | _, _ => false

end ValueKind

inductive Schema where
  /-- Accepts everything, or nothing. -/
  | constant (accepts : Bool)
  /-- Asks for a kind, one of some words, a least length of a text, a least number; asks something
  of the members named, and whether others may be there. -/
  | rules (kind : Option ValueKind) (words : Option (List String)) (minLength : Option Nat)
      (minimum : Option Int) (properties : List (String × Schema)) (closed : Bool)

/-- Something that a schema finds wrong with a value. -/
inductive Violation where
  | wrongWord (value : Document) (words : List String)
  | tooShort (value : Document) (minLength : Nat)
  | tooSmall (value : Document) (minimum : Int)
  | unexpected (names : List String)
  | wrongKind (value : Document) (kind : ValueKind)
  | refused (value : Document)

namespace Violation

def message : Violation → String
  | wrongWord value words =>
      value.write ++ " is not one of " ++ (Document.ofList .text words).write
  | tooShort value minLength =>
      value.write ++ " is shorter than " ++ toString minLength ++ " character" ++
        (if minLength = 1 then "" else "s")
  | tooSmall value minimum =>
      value.write ++ " is less than the minimum of " ++ toString minimum
  | unexpected names =>
      let quoted := names.map fun name => "'" ++ name ++ "'"
      "Additional properties are not allowed (" ++ String.intercalate ", " quoted ++
        (if names.length = 1 then " was" else " were") ++ " unexpected)"
  | wrongKind value kind => value.write ++ " is not of type \"" ++ kind.word ++ "\""
  | refused value => "False schema does not allow " ++ value.write

end Violation

namespace Schema

def wordViolations (words : Option (List String)) (d : Document) : List Violation :=
  match words, d with
  | some words, .text s => if words.contains s then [] else [.wrongWord d words]
  | some words, d => [.wrongWord d words]
  | none, _ => []

/-- Values other than texts have no length. -/
def lengthViolations (minLength : Option Nat) (d : Document) : List Violation :=
  match minLength, d with
  | some least, .text s => if s.length < least then [.tooShort d least] else []
  | _, _ => []

/-- Only numbers are compared with the least one. -/
def minimumViolations (minimum : Option Int) (d : Document) : List Violation :=
  match minimum, d with
  | some least, .integer n => if n < least then [.tooSmall d least] else []
  | some least, .real x => if x.ltInt least then [.tooSmall d least] else []
  | _, _ => []

def kindViolations (kind : Option ValueKind) (d : Document) : List Violation :=
  match kind with
  | some kind => if kind.admits d then [] else [.wrongKind d kind]
  | none => []

/-- The members that no property is about. -/
def strangers (properties : List (String × Schema)) (members : List (String × Document)) :
    List String :=
  (members.map (·.1)).filter fun name => !properties.any fun property => property.1 == name

def strangerViolations (properties : List (String × Schema)) (closed : Bool) (d : Document) :
    List Violation :=
  match closed, d with
  | true, .record members =>
      match strangers properties members with
      | [] => []
      | names => [.unexpected names]
  | _, _ => []

/-- The member of a record, the last one of several. -/
def member? (name : String) : Document → Option Document
  | .record members => (Document.valuesOf name members).getLast?
  | _ => none

mutual
def violations : Schema → Document → List Violation
  | constant true, _ => []
  | constant false, d => [.refused d]
  | rules kind words minLength minimum properties closed, d =>
      wordViolations words d ++ lengthViolations minLength d ++ minimumViolations minimum d ++
        propertyViolations properties d ++ strangerViolations properties closed d ++
        kindViolations kind d
termination_by structural schema => schema
def propertyViolations : List (String × Schema) → Document → List Violation
  | [], _ => []
  | (name, schema) :: properties, d =>
      (match member? name d with
        | some value => violations schema value
        | none => []) ++ propertyViolations properties d
termination_by structural properties => properties
end

/-- The document is acceptable. -/
def accepts (schema : Schema) (d : Document) : Bool := (violations schema d).isEmpty

/-! ## Schemas as documents -/

mutual
/-- Reads a schema. A keyword that is not known, or whose value has another form than the one
known, asks for nothing. -/
def ofDocument : Document → Schema
  | .bool accepts => constant accepts
  | .record members =>
      rules
        (Document.required "type" members fun d => d.readText?.bind ValueKind.ofWord?)
        (Document.required "enum" members (Document.readList? Document.readText?))
        (Document.required "minLength" members (Document.readBelow? UInt64.size))
        (Document.required "minimum" members Document.readInteger?)
        (propertiesIn members)
        (Document.required "additionalProperties" members Document.readBool? == some false)
  | _ => constant true
termination_by structural d => d
/-- The schemas of the properties among the keywords of a schema. -/
def propertiesIn : List (String × Document) → List (String × Schema)
  | [] => []
  | (name, .record properties) :: ms =>
      if name = "properties" then propertiesOf properties else propertiesIn ms
  | _ :: ms => propertiesIn ms
termination_by structural ms => ms
def propertiesOf : List (String × Document) → List (String × Schema)
  | [] => []
  | (name, d) :: ms => (name, ofDocument d) :: propertiesOf ms
termination_by structural ms => ms
end

/-- Reads a schema from the text of a JSON document, nothing of which may be passed over. -/
def ofJson? (s : String) : Option Schema :=
  (Document.ofJsonWhole? s).map fun d => ofDocument d.normalise

end Schema

end Allotment
