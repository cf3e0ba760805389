/-!
# Tables

A table gives a value to each of finitely many names. Its entries stand in ascending order of
the names, compared character by character, and no name stands twice: two tables with the same
values under the same names are equal (`Table.ext_get?`), and what is written last under a name
is what is found there (`Table.get?_insert`).
-/

namespace Allotment

/-- The entries are in strictly ascending order of their names. -/
def Ascending {α : Type} (entries : List (String × α)) : Prop :=
  entries.Pairwise fun a b => a.1 < b.1

instance {α : Type} (entries : List (String × α)) : Decidable (Ascending entries) :=
  inferInstanceAs (Decidable (entries.Pairwise fun a b => a.1 < b.1))

structure Table (α : Type) where
  entries : List (String × α)
  ascending : Ascending entries
  deriving DecidableEq, Repr

namespace Table

variable {α β : Type}

theorem eq_of_entries {s t : Table α} (h : s.entries = t.entries) : s = t := by
  cases s
  cases t
  cases h
  rfl

/-- The value of the first entry with the name. -/
def find? (name : String) : List (String × α) → Option α
  | [] => none
  | e :: es => if e.1 = name then some e.2 else find? name es

/-- Writes a value into ascending entries, in its place. -/
def put (name : String) (value : α) : List (String × α) → List (String × α)
  | [] => [(name, value)]
  | e :: es =>
      if e.1 = name then (name, value) :: es
      else if name < e.1 then (name, value) :: e :: es
      else e :: put name value es

theorem find?_cons_of_eq {name : String} {e : String × α} {es : List (String × α)}
    (h : e.1 = name) : find? name (e :: es) = some e.2 := if_pos h

theorem find?_cons_of_ne {name : String} {e : String × α} {es : List (String × α)}
    (h : e.1 ≠ name) : find? name (e :: es) = find? name es := if_neg h

/-- The value is put in place of the first entry, before it, or behind it. -/
theorem put_cons_cases (name : String) (value : α) (e : String × α) (es : List (String × α)) :
    (e.1 = name ∧ put name value (e :: es) = (name, value) :: es) ∨
    (name < e.1 ∧ put name value (e :: es) = (name, value) :: e :: es) ∨
    (e.1 < name ∧ put name value (e :: es) = e :: put name value es) := by
  by_cases heq : e.1 = name
  · exact .inl ⟨heq, if_pos heq⟩
  · by_cases hlt : name < e.1
    · exact .inr (.inl ⟨hlt, (if_neg heq).trans (if_pos hlt)⟩)
    · have hgt : e.1 < name :=
        String.not_le.mp fun hle => heq (String.le_antisymm (String.not_lt.mp hlt) hle)
      exact .inr (.inr ⟨hgt, (if_neg heq).trans (if_neg hlt)⟩)

theorem mem_put {name : String} {value : α} {es : List (String × α)} {e : String × α}
    (h : e ∈ put name value es) : e = (name, value) ∨ e ∈ es := by
  induction es with
  | nil => exact .inl (List.mem_singleton.mp h)
  | cons d ds ih =>
      rcases put_cons_cases name value d ds with ⟨-, hput⟩ | ⟨-, hput⟩ | ⟨-, hput⟩
      · rw [hput] at h
        exact (List.mem_cons.mp h).imp_right (List.mem_cons_of_mem _)
      · rw [hput] at h
        exact List.mem_cons.mp h
      · rw [hput] at h
        rcases List.mem_cons.mp h with rfl | h
        · exact .inr List.mem_cons_self
        · exact (ih h).imp_right (List.mem_cons_of_mem _)

theorem ascending_put {es : List (String × α)} (h : Ascending es) (name : String) (value : α) :
    Ascending (put name value es) := by
  induction es with
  | nil => exact List.pairwise_singleton _ _
  | cons d ds ih =>
      have hd := List.pairwise_cons.mp h
      rcases put_cons_cases name value d ds with ⟨heq, hput⟩ | ⟨hlt, hput⟩ | ⟨hgt, hput⟩
      · rw [hput]
        exact List.pairwise_cons.mpr ⟨fun e he => heq ▸ hd.1 e he, hd.2⟩
      · rw [hput]
        refine List.pairwise_cons.mpr ⟨fun e he => ?_, h⟩
        rcases List.mem_cons.mp he with rfl | he
        · exact hlt
        · exact String.lt_trans hlt (hd.1 e he)
      · rw [hput]
        refine List.pairwise_cons.mpr ⟨fun e he => ?_, ih hd.2⟩
        rcases mem_put he with rfl | he
        · exact hgt
        · exact hd.1 e he

def empty : Table α := ⟨[], List.Pairwise.nil⟩

instance : Inhabited (Table α) := ⟨empty⟩

def get? (t : Table α) (name : String) : Option α :=
  find? name t.entries

def contains (t : Table α) (name : String) : Bool :=
  (t.get? name).isSome

/-- Gives the name the value, in place of any value it had. -/
def insert (t : Table α) (name : String) (value : α) : Table α :=
  ⟨put name value t.entries, ascending_put t.ascending name value⟩

/-- Takes the name away. -/
def erase (t : Table α) (name : String) : Table α :=
  ⟨t.entries.filter fun e => e.1 ≠ name, t.ascending.filter _⟩

/-- Writes the entries one after the other, so the last value under a name stays. -/
def ofList (entries : List (String × α)) : Table α :=
  entries.foldl (fun t e => t.insert e.1 e.2) empty

def keys (t : Table α) : List String := t.entries.map (·.1)

def values (t : Table α) : List α := t.entries.map (·.2)

def size (t : Table α) : Nat := t.entries.length

theorem ascending_map {es : List (String × α)} (h : Ascending es) (f : α → β) :
    Ascending (es.map fun e => (e.1, f e.2)) := by
  unfold Ascending at h ⊢
  exact List.pairwise_map.mpr h

/-- Applies a function to every value. -/
def map (f : α → β) (t : Table α) : Table β :=
  ⟨t.entries.map fun e => (e.1, f e.2), ascending_map t.ascending f⟩

theorem find?_map (f : α → β) (name : String) (es : List (String × α)) :
    find? name (es.map fun e => (e.1, f e.2)) = (find? name es).map f := by
  induction es with
  | nil => rfl
  | cons d ds ih =>
      rw [List.map_cons]
      by_cases h : d.1 = name
      · rw [find?_cons_of_eq h]
        exact find?_cons_of_eq h
      · rw [find?_cons_of_ne h, ← ih]
        exact find?_cons_of_ne h

@[simp] theorem get?_map (t : Table α) (f : α → β) (name : String) :
    (t.map f).get? name = (t.get? name).map f :=
  find?_map f name t.entries

@[simp] theorem values_map (t : Table α) (f : α → β) :
    (t.map f).values = t.values.map f := by
  simp [values, map]

theorem find?_put (name key : String) (value : α) (es : List (String × α)) :
    find? key (put name value es) = if name = key then some value else find? key es := by
  induction es with
  | nil => rfl
  | cons d ds ih =>
      rcases put_cons_cases name value d ds with ⟨rfl, hput⟩ | ⟨-, hput⟩ | ⟨hgt, hput⟩
      · rw [hput]
        by_cases h : d.1 = key
        · rw [if_pos h]
          exact find?_cons_of_eq h
        · rw [if_neg h, find?_cons_of_ne (e := d) h]
          exact find?_cons_of_ne h
      · rw [hput]
        rfl
      · rw [hput]
        by_cases h : d.1 = key
        · have hne : name ≠ key := (h ▸ String.ne_of_lt hgt).symm
          rw [find?_cons_of_eq h, find?_cons_of_eq h, if_neg hne]
        · rw [find?_cons_of_ne h, find?_cons_of_ne h, ih]

/-- What was written under a name is found there, and every other name keeps its value. -/
theorem get?_insert (t : Table α) (name key : String) (value : α) :
    (t.insert name value).get? key = if name = key then some value else t.get? key :=
  find?_put name key value t.entries

@[simp] theorem get?_empty (name : String) : (empty : Table α).get? name = none := rfl

theorem get?_foldl_insert (es : List (String × α)) (t : Table α) (name : String) :
    (es.foldl (fun t e => t.insert e.1 e.2) t).get? name =
      ((es.reverse.find? fun e => e.1 == name).map (·.2)).or (t.get? name) := by
  induction es generalizing t with
  | nil => simp
  | cons e es ih =>
      rw [List.foldl_cons, ih, get?_insert, List.reverse_cons, List.find?_append]
      cases es.reverse.find? fun e => e.1 == name with
      | some d => simp
      | none => by_cases he : e.1 = name <;> simp [he]

/-- Of the values given under a name the last one is found. -/
theorem get?_ofList (es : List (String × α)) (name : String) :
    (ofList es).get? name = (es.reverse.find? fun e => e.1 == name).map (·.2) := by
  rw [ofList, get?_foldl_insert, get?_empty, Option.or_none]

theorem find?_eq_none {name : String} {es : List (String × α)}
    (h : ∀ e ∈ es, e.1 ≠ name) : find? name es = none := by
  induction es with
  | nil => rfl
  | cons d ds ih =>
      rw [find?_cons_of_ne (h d List.mem_cons_self)]
      exact ih fun e he => h e (List.mem_cons_of_mem _ he)

theorem find?_of_mem {es : List (String × α)} (h : Ascending es) {e : String × α}
    (he : e ∈ es) : find? e.1 es = some e.2 := by
  induction es with
  | nil => cases he
  | cons d ds ih =>
      have hd := List.pairwise_cons.mp h
      rcases List.mem_cons.mp he with rfl | he
      · exact find?_cons_of_eq rfl
      · rw [find?_cons_of_ne (String.ne_of_lt (hd.1 e he))]
        exact ih hd.2 he

theorem mem_of_find? {name : String} {value : α} {es : List (String × α)}
    (h : find? name es = some value) : (name, value) ∈ es := by
  induction es with
  | nil => cases h
  | cons d ds ih =>
      by_cases hd : d.1 = name
      · rw [find?_cons_of_eq hd] at h
        cases h
        exact hd ▸ List.mem_cons_self
      · rw [find?_cons_of_ne hd] at h
        exact List.mem_cons_of_mem _ (ih h)

theorem get?_eq_some_iff {t : Table α} {name : String} {value : α} :
    t.get? name = some value ↔ (name, value) ∈ t.entries :=
  ⟨mem_of_find?, fun h => find?_of_mem t.ascending h⟩

theorem entries_eq_of_find? {as bs : List (String × α)} (ha : Ascending as) (hb : Ascending bs)
    (h : ∀ name, find? name as = find? name bs) : as = bs := by
  induction as generalizing bs with
  | nil =>
      cases bs with
      | nil => rfl
      | cons b bs => nomatch (h b.1).trans (find?_cons_of_eq rfl)
  | cons a as ih =>
      cases bs with
      | nil => nomatch (h a.1).symm.trans (find?_cons_of_eq rfl)
      | cons b bs =>
          have ha' := List.pairwise_cons.mp ha
          have hb' := List.pairwise_cons.mp hb
          have hkey : a.1 = b.1 := by
            apply Decidable.byContradiction
            intro hne
            have hamem : (a.1, a.2) ∈ b :: bs :=
              mem_of_find? ((h a.1).symm.trans (find?_cons_of_eq rfl))
            have hbmem : (b.1, b.2) ∈ a :: as :=
              mem_of_find? ((h b.1).trans (find?_cons_of_eq rfl))
            have hlt : b.1 < a.1 := by
              rcases List.mem_cons.mp hamem with he | he
              · exact absurd (congrArg Prod.fst he) hne
              · exact hb'.1 _ he
            have hgt : a.1 < b.1 := by
              rcases List.mem_cons.mp hbmem with he | he
              · exact absurd (congrArg Prod.fst he).symm hne
              · exact ha'.1 _ he
            exact String.lt_asymm hlt hgt
          have hval : a.2 = b.2 := by
            have hfound := h a.1
            rw [find?_cons_of_eq rfl, find?_cons_of_eq hkey.symm] at hfound
            exact Option.some.inj hfound
          have htail : as = bs := by
            refine ih ha'.2 hb'.2 fun name => ?_
            by_cases hn : a.1 = name
            · subst hn
              rw [find?_eq_none fun e he => (String.ne_of_lt (ha'.1 e he)).symm,
                find?_eq_none fun e he => hkey ▸ (String.ne_of_lt (hb'.1 e he)).symm]
            · have hfound := h name
              rwa [find?_cons_of_ne hn, find?_cons_of_ne (hkey ▸ hn)] at hfound
          rw [htail, Prod.ext hkey hval]

/-- A table is known by the values it gives. -/
theorem ext_get? {s t : Table α} (h : ∀ name, s.get? name = t.get? name) : s = t :=
  eq_of_entries (entries_eq_of_find? s.ascending t.ascending h)

/-- The entries of a table are all that there is to it. -/
theorem ofList_entries (t : Table α) : ofList t.entries = t := by
  apply ext_get?
  intro name
  rw [get?_ofList]
  cases hfound : t.entries.reverse.find? fun e => e.1 == name with
  | none =>
      have hnone : find? name t.entries = none := find?_eq_none fun e he => by
        simpa using List.find?_eq_none.mp hfound e (List.mem_reverse.mpr he)
      exact hnone.symm
  | some e =>
      have hname : e.1 = name := by simpa using List.find?_some hfound
      have hmem := List.mem_reverse.mp (List.mem_of_find?_eq_some hfound)
      exact (get?_eq_some_iff.mpr (hname ▸ hmem)).symm

/-- Where every name is given what a function says, this is what is found under it. -/
theorem get?_ofList_map (f : String → α) (names : List String) (name : String) :
    (ofList (names.map fun n => (n, f n))).get? name =
      if name ∈ names then some (f name) else none := by
  have hentry : ((fun e : String × α => e.1 == name) ∘ fun n => (n, f n)) =
      fun n => n == name := rfl
  rw [get?_ofList, ← List.map_reverse, List.find?_map, hentry]
  cases hfound : names.reverse.find? fun n => n == name with
  | none =>
      have hmem : name ∉ names := fun hmem => by
        simpa using List.find?_eq_none.mp hfound name (List.mem_reverse.mpr hmem)
      simp [hmem]
  | some n =>
      have hn : n = name := by simpa using List.find?_some hfound
      have hmem : n ∈ names := List.mem_reverse.mp (List.mem_of_find?_eq_some hfound)
      rw [if_pos (hn ▸ hmem)]
      simp [hn]

/-- No name stands twice. -/
theorem nodup_keys (t : Table α) : t.keys.Nodup :=
  (List.pairwise_map.mpr t.ascending).imp String.ne_of_lt

theorem mem_keys_iff {t : Table α} {name : String} :
    name ∈ t.keys ↔ (t.get? name).isSome = true := by
  simp [keys, Option.isSome_iff_exists, get?_eq_some_iff]

@[simp] theorem keys_map (t : Table α) (f : α → β) : (t.map f).keys = t.keys := by
  simp [keys, map]

/-- The names of a table stand in an order of their own. -/
theorem keys_eq_of_mem_iff {s t : Table α} (h : ∀ name, name ∈ s.keys ↔ name ∈ t.keys) :
    s.keys = t.keys := by
  have hplain : (s.map fun _ => ()) = t.map fun _ => () := by
    apply ext_get?
    intro name
    have hname : (s.get? name).isSome = (t.get? name).isSome := by
      rw [Bool.eq_iff_iff, ← mem_keys_iff, ← mem_keys_iff]
      exact h name
    rw [get?_map, get?_map]
    cases hs : s.get? name <;> cases ht : t.get? name <;> simp [hs, ht] at hname ⊢
  rw [← keys_map s fun _ => (), ← keys_map t fun _ => (), hplain]

end Table

end Allotment
