import Allotment.Order.Table

/-!
# Sets of names

A set of names is a table without values: its members stand in ascending order, each once.
-/

namespace Allotment

abbrev NameSet := Table Unit

namespace NameSet

def ofList (names : List String) : NameSet :=
  Table.ofList (names.map fun name => (name, ()))

/-- The members in ascending order. -/
def toList (s : NameSet) : List String := s.keys

/-- Membership is exact: case and blanks count. -/
def contains (s : NameSet) (name : String) : Bool := Table.contains s name

theorem ofList_toList (s : NameSet) : ofList s.toList = s := by
  have hentries : s.toList.map (fun name => (name, ())) = s.entries := by
    rw [toList, Table.keys, List.map_map]
    exact List.map_id _
  rw [ofList, hentries, Table.ofList_entries]

theorem contains_iff_mem {s : NameSet} {name : String} :
    s.contains name = true ↔ name ∈ s.toList :=
  Table.mem_keys_iff.symm

/-- A set made of names holds these and no others. -/
@[simp] theorem mem_toList_ofList {names : List String} {name : String} :
    name ∈ (ofList names).toList ↔ name ∈ names := by
  rw [toList, Table.mem_keys_iff, ofList, Table.get?_ofList_map (fun _ => ())]
  by_cases h : name ∈ names <;> simp [h]

end NameSet

end Allotment
