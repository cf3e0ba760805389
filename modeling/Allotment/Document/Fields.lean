import Allotment.Amount
import Allotment.Document
import Allotment.Order.NameSet

/-!
# Reading documents

A reader takes a document to a value of some type, or refuses it. A record is read field by
field: a required field stands once, an optional one at most once, and members of other names
are passed over. Numbers are read in their range and only where they are written as whole
numbers. A table takes the last value of a repeated name.
-/

namespace Allotment.Document

def readText? : Document → Option String
  | text s => some s
  | _ => none

def readBool? : Document → Option Bool
  | bool b => some b
  | _ => none

def readInteger? : Document → Option Int
  | integer n => some n
  | _ => none

/-- Reads a whole number from zero up to below the bound. -/
def readBelow? (bound : Nat) (d : Document) : Option Nat :=
  match d with
  | integer n => if 0 ≤ n ∧ n < bound then some n.toNat else none
  | _ => none

def readUnits? (d : Document) : Option UInt32 :=
  (d.readBelow? UInt32.size).map UInt32.ofNat

def readSize? (d : Document) : Option UInt64 :=
  (d.readBelow? UInt64.size).map UInt64.ofNat

def readAmount? (d : Document) : Option Amount :=
  d.readInteger?.bind Amount.ofInt?

variable {α : Type}

def readNullable? (read : Document → Option α) : Document → Option (Option α)
  | null => some none
  | d => (read d).map some

def readList? (read : Document → Option α) : Document → Option (List α)
  | list items => items.mapM read
  | _ => none

def readMembers? : Document → Option (List (String × Document))
  | record members => some members
  | _ => none

def readTable? (read : Document → Option α) : Document → Option (Table α)
  | record members => (members.mapM fun m => (read m.2).map (m.1, ·)).map Table.ofList
  | _ => none

def readTexts? : Document → Option (Table String) := readTable? readText?

def readNames? (d : Document) : Option NameSet :=
  (d.readList? readText?).map NameSet.ofList

/-- Reads one of finitely many words. A word also stands for itself as the only name of a record
that gives it null. -/
def readWord? (meaning : String → Option α) : Document → Option α
  | text word => meaning word
  | record [(word, null)] => meaning word
  | _ => none

/-- The values that a record gives to a name, in order. -/
def valuesOf (name : String) (members : List (String × Document)) : List Document :=
  (members.filter fun m => m.1 == name).map (·.2)

/-- Reads a field that must stand once. -/
def required (name : String) (members : List (String × Document))
    (read : Document → Option α) : Option α :=
  match valuesOf name members with
  | [d] => read d
  | _ => none

/-- Reads a field that may be absent and then has the default value. -/
def optional (name : String) (members : List (String × Document)) (default : α)
    (read : Document → Option α) : Option α :=
  match valuesOf name members with
  | [] => some default
  | [d] => read d
  | _ => none

/-- Reads a field that may be absent, or null where it stands. -/
def nullable (name : String) (members : List (String × Document))
    (read : Document → Option α) : Option (Option α) :=
  optional name members none (readNullable? read)

/-! ## Writing -/

def ofNullable (write : α → Document) : Option α → Document
  | none => null
  | some a => write a

def ofList (write : α → Document) (xs : List α) : Document :=
  list (xs.map write)

def ofTable (write : α → Document) (t : Table α) : Document :=
  record (t.entries.map fun e => (e.1, write e.2))

def ofTexts (t : Table String) : Document := ofTable text t

def ofNames (s : NameSet) : Document := ofList text s.toList

def ofUnits (n : UInt32) : Document := integer n.toNat

def ofSize (n : UInt64) : Document := integer n.toNat

def ofAmount (a : Amount) : Document := integer a.val

end Allotment.Document
