import Allotment.Decimal.Binary64
import Allotment.Order.Table

/-!
# Documents

The values that configuration files, scenarios and results are made of. A record keeps its
members as they were written, in order and with repeated names; `normalise` keeps the last
value of each name and puts the names in ascending order. `illegible` stands for a well-formed
literal that denotes no value, such as half of a surrogate pair: it may be passed over, but
nothing reads it.
-/

namespace Allotment

inductive Document where
  | null
  | bool (value : Bool)
  | integer (value : Int)
  | real (value : Binary64)
  | text (value : String)
  | list (items : List Document)
  | record (members : List (String × Document))
  | illegible

namespace Document

instance : Inhabited Document := ⟨null⟩

mutual
/-- Keeps the last value of every name, and the names in ascending order. -/
def normalise : Document → Document
  | list items => list (normaliseItems items)
  | record members => record (Table.ofList (normaliseMembers members)).entries
  | d => d
termination_by structural d => d
def normaliseItems : List Document → List Document
  | [] => []
  | d :: ds => normalise d :: normaliseItems ds
termination_by structural ds => ds
def normaliseMembers : List (String × Document) → List (String × Document)
  | [] => []
  | (name, d) :: ms => (name, normalise d) :: normaliseMembers ms
termination_by structural ms => ms
end

mutual
/-- Everything in the document denotes a value. -/
def isLegible : Document → Bool
  | illegible => false
  | list items => areLegible items
  | record members => haveLegible members
  | _ => true
termination_by structural d => d
def areLegible : List Document → Bool
  | [] => true
  | d :: ds => isLegible d && areLegible ds
termination_by structural ds => ds
def haveLegible : List (String × Document) → Bool
  | [] => true
  | (_, d) :: ms => isLegible d && haveLegible ms
termination_by structural ms => ms
end

mutual
/-- How deep lists and records stand in each other. -/
def depth : Document → Nat
  | list items => depthOfItems items + 1
  | record members => depthOfMembers members + 1
  | _ => 0
termination_by structural d => d
def depthOfItems : List Document → Nat
  | [] => 0
  | d :: ds => max (depth d) (depthOfItems ds)
termination_by structural ds => ds
def depthOfMembers : List (String × Document) → Nat
  | [] => 0
  | (_, d) :: ms => max (depth d) (depthOfMembers ms)
termination_by structural ms => ms
end

/-- Writes members over those of the same name; a null takes the name away. -/
def overlayMembers (base changes : List (String × Document)) : List (String × Document) :=
  changes.foldl
    (fun ms change =>
      let rest := ms.filter fun m => m.1 != change.1
      match change.2 with
      | null => rest
      | d => rest ++ [(change.1, d)])
    base

/-- A record with members written over its own. -/
def overlay (changes : List (String × Document)) : Document → Document
  | record members => record (overlayMembers members changes)
  | d => d

end Document

end Allotment
