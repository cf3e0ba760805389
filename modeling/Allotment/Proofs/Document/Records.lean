import Allotment.Document.Schema

/-!
# Records in order

A document that was put in order holds its records as tables. What a reader takes from such a
record, and what a schema sees of it, is what the table holds under the name.
-/

namespace Allotment

namespace Document

theorem valuesOf_cons (name : String) (m : String × Document) (ms : List (String × Document)) :
    valuesOf name (m :: ms) = if m.1 = name then m.2 :: valuesOf name ms else valuesOf name ms := by
  by_cases hname : m.1 = name <;> simp [valuesOf, hname]

theorem valuesOf_of_ascending {members : List (String × Document)} (h : Ascending members)
    (name : String) : valuesOf name members = (Table.find? name members).toList := by
  induction members with
  | nil => rfl
  | cons m ms ih =>
      have hm := List.pairwise_cons.mp h
      rw [valuesOf_cons]
      by_cases hname : m.1 = name
      · have hrest : Table.find? name ms = none :=
          Table.find?_eq_none fun e he => hname ▸ (String.ne_of_lt (hm.1 e he)).symm
        rw [if_pos hname, ih hm.2, hrest, Table.find?_cons_of_eq hname]
        rfl
      · rw [if_neg hname, ih hm.2, Table.find?_cons_of_ne hname]

variable (t : Table Document) (name : String)

@[simp] theorem valuesOf_entries : valuesOf name t.entries = (t.get? name).toList :=
  valuesOf_of_ascending t.ascending name

@[simp] theorem member?_entries : Schema.member? name (.record t.entries) = t.get? name := by
  rw [Schema.member?, valuesOf_entries]
  cases t.get? name <;> rfl

variable {t name}

/-- An optional field of a table is the default value, or what is read of the one value there. -/
theorem optional_entries {α : Type} {default : α} {read : Document → Option α} :
    optional name t.entries default read =
      match t.get? name with
      | none => some default
      | some d => read d := by
  rw [optional, valuesOf_entries]
  cases t.get? name <;> rfl

/-- A whole number in the range of sizes is read. -/
theorem readSize?_integer {n : Int} (hleast : 0 ≤ n) (hlt : n < 18446744073709551616) :
    readSize? (integer n) = some (.ofNat n.toNat) := by
  have hrange : 0 ≤ n ∧ n < (UInt64.size : Nat) := ⟨hleast, hlt⟩
  rw [readSize?, readBelow?, if_pos hrange, Option.map_some]

theorem readSize?_ofSize (n : UInt64) : readSize? (ofSize n) = some n := by
  have hlt : (n.toNat : Int) < 18446744073709551616 := Int.ofNat_lt.mpr n.toNat_lt
  rw [ofSize, readSize?_integer (Int.natCast_nonneg _) hlt, Int.toNat_natCast, UInt64.ofNat_toNat]

/-! ## Putting a document in order -/

theorem normaliseItems_eq_map (items : List Document) :
    normaliseItems items = items.map normalise := by
  induction items with
  | nil => rfl
  | cons d ds ih => rw [normaliseItems, ih, List.map_cons]

theorem normaliseMembers_eq_map (members : List (String × Document)) :
    normaliseMembers members = members.map fun m => (m.1, m.2.normalise) := by
  induction members with
  | nil => rfl
  | cons m ms ih => rw [normaliseMembers, ih, List.map_cons]

/-- The table that a record becomes. -/
def tableOf (members : List (String × Document)) : Table Document :=
  Table.ofList (normaliseMembers members)

theorem normalise_record (members : List (String × Document)) :
    (record members).normalise = record (tableOf members).entries := rfl

/-- Of several values under a name the last one stays. -/
theorem get?_tableOf (members : List (String × Document)) :
    (tableOf members).get? name = (valuesOf name members).getLast?.map normalise := by
  have hentry : ((fun e : String × Document => e.1 == name) ∘
      fun m : String × Document => (m.1, m.2.normalise)) = fun m => m.1 == name := rfl
  rw [tableOf, Table.get?_ofList, normaliseMembers_eq_map, ← List.map_reverse, List.find?_map,
    hentry, valuesOf, List.getLast?_map, List.getLast?_eq_head?_reverse, ← List.filter_reverse,
    List.head?_filter]
  cases members.reverse.find? fun m => m.1 == name <;> rfl

theorem mem_of_get?_tableOf {members : List (String × Document)} {d : Document}
    (h : (tableOf members).get? name = some d) :
    ∃ m ∈ members, m.1 = name ∧ m.2.normalise = d := by
  rw [get?_tableOf] at h
  obtain ⟨value, hvalue, rfl⟩ := Option.map_eq_some_iff.mp h
  obtain ⟨m, hm, rfl⟩ := List.mem_map.mp (List.mem_of_getLast? hvalue)
  obtain ⟨hmem, hname⟩ := List.mem_filter.mp hm
  exact ⟨m, hmem, beq_iff_eq.mp hname, rfl⟩

theorem valuesOf_eq_nil_iff {members : List (String × Document)} :
    valuesOf name members = [] ↔ name ∉ members.map (·.1) := by
  induction members with
  | nil => simp [valuesOf]
  | cons m ms ih =>
      rw [valuesOf_cons]
      by_cases hname : m.1 = name
      · simp [hname]
      · have hne : name ≠ m.1 := fun h => hname h.symm
        rw [if_neg hname, ih, List.map_cons, List.mem_cons, or_iff_right hne]

theorem get?_tableOf_of_notMem {members : List (String × Document)}
    (h : name ∉ members.map (·.1)) : (tableOf members).get? name = none := by
  rw [get?_tableOf, valuesOf_eq_nil_iff.mpr h]
  rfl

/-- Where no name stands twice every value stays. -/
theorem get?_tableOf_of_mem {members : List (String × Document)} {d : Document}
    (hnames : (members.map (·.1)).Nodup) (h : (name, d) ∈ members) :
    (tableOf members).get? name = some d.normalise := by
  have hsingle : valuesOf name members = [d] := by
    induction members with
    | nil => cases h
    | cons m ms ih =>
        obtain ⟨hm, hms⟩ := List.nodup_cons.mp hnames
        rcases List.mem_cons.mp h with rfl | hlater
        · rw [valuesOf_cons, if_pos rfl, valuesOf_eq_nil_iff.mpr hm]
        · have hne : m.1 ≠ name := by
            rintro rfl
            exact hm (List.mem_map.mpr ⟨_, hlater, rfl⟩)
          rw [valuesOf_cons, if_neg hne, ih hms hlater]
  rw [get?_tableOf, hsingle]
  rfl

/-! ## Amounts -/

/-- Every whole number in the document is an amount. -/
inductive HoldsAmounts : Document → Prop
  | null : HoldsAmounts null
  | bool (b : Bool) : HoldsAmounts (bool b)
  | integer (a : Amount) : HoldsAmounts (integer a.val)
  | real (x : Binary64) : HoldsAmounts (real x)
  | text (s : String) : HoldsAmounts (text s)
  | list {items : List Document} : (∀ d ∈ items, HoldsAmounts d) → HoldsAmounts (list items)
  | record {members : List (String × Document)} :
      (∀ m ∈ members, HoldsAmounts m.2) → HoldsAmounts (record members)

/-- Every record in the document is a table, and every whole number is an amount. -/
inductive Orderly : Document → Prop
  | null : Orderly null
  | bool (b : Bool) : Orderly (bool b)
  | integer (a : Amount) : Orderly (integer a.val)
  | real (x : Binary64) : Orderly (real x)
  | text (s : String) : Orderly (text s)
  | list {items : List Document} : (∀ d ∈ items, Orderly d) → Orderly (list items)
  | record (t : Table Document) :
      (∀ name d, t.get? name = some d → Orderly d) → Orderly (record t.entries)

theorem HoldsAmounts.orderly {d : Document} (h : HoldsAmounts d) : Orderly d.normalise := by
  induction h with
  | null => exact .null
  | bool b => exact .bool b
  | integer a => exact .integer a
  | real x => exact .real x
  | text s => exact .text s
  | list _ ih =>
      rw [normalise, normaliseItems_eq_map]
      exact .list (List.forall_mem_map.mpr ih)
  | record _ ih =>
      rw [normalise_record]
      refine .record _ fun name d hd => ?_
      obtain ⟨m, hm, -, rfl⟩ := mem_of_get?_tableOf hd
      exact ih m hm

end Document

end Allotment
