import Allotment.Document.Fields
import Mathlib.Data.List.Forall2

/-!
# Leeway in how documents are written

A record may be written without fields that have their default values, and with members of names
that its reader does not know; so may the records inside it. A `Leeway` says in which forms a
document may stand for its full form. A reader that takes every such form for the value that was
written (`Reads`) is put together from the readers of its fields (`reads_record`).
-/

namespace Allotment.Document

/-- The forms in which a document may be written, among them the document itself. -/
structure Leeway where
  allows : Document → Document → Prop
  refl : ∀ d, allows d d

/-- A field of a record: its name, the value for which it may be left out, where there is one, and
the leeway of its value. -/
structure Field where
  name : String
  default? : Option Document
  leeway : Leeway

/-- The last members stand for the full ones, which are the fields in order. Fields with default
values may be missing, and members under unknown names may stand anywhere. -/
inductive Stands (known : List String) :
    List Field → List (String × Document) → List (String × Document) → Prop
  | nil : Stands known [] [] []
  | keep {f : Field} {fields : List Field} {full members : List (String × Document)}
      {d form : Document} : f.leeway.allows d form → Stands known fields full members →
      Stands known (f :: fields) ((f.name, d) :: full) ((f.name, form) :: members)
  | drop {f : Field} {fields : List Field} {full members : List (String × Document)}
      {d : Document} : f.default? = some d → Stands known fields full members →
      Stands known (f :: fields) ((f.name, d) :: full) members
  | add {fields : List Field} {full members : List (String × Document)} {name : String}
      (d : Document) : name ∉ known → Stands known fields full members →
      Stands known fields full ((name, d) :: members)

namespace Leeway

/-- Nothing may be changed: for texts, numbers, sets of names and tables. -/
def exact : Leeway where
  allows d form := form = d
  refl _ := rfl

/-- Each item may be written with its own leeway. -/
def listOf (item : Leeway) : Leeway where
  allows d form := form = d ∨
    ∃ items forms, d = list items ∧ form = list forms ∧ List.Forall₂ item.allows items forms
  refl _ := .inl rfl

/-- Fields with default values may be missing, and unknown ones may be there. -/
def recordOf (fields : List Field) : Leeway where
  allows d form := form = d ∨
    ∃ full members, d = record full ∧ form = record members ∧
      Stands (fields.map (·.name)) fields full members
  refl _ := .inl rfl

/-- One of two leeways, for values of several kinds. -/
def or (first second : Leeway) : Leeway where
  allows d form := first.allows d form ∨ second.allows d form
  refl d := .inl (first.refl d)

end Leeway

/-! ## Records -/

variable {known : List String} {fields : List Field} {full members : List (String × Document)}

theorem Stands.names_eq (h : Stands known fields full members) :
    full.map (·.1) = fields.map (·.name) := by
  induction h with
  | nil => rfl
  | keep _ _ ih => rw [List.map_cons, List.map_cons, ih]
  | drop _ _ ih => rw [List.map_cons, List.map_cons, ih]
  | add _ _ _ ih => exact ih

theorem Stands.refl (known : List String) (h : full.map (·.1) = fields.map (·.name)) :
    Stands known fields full full := by
  induction fields generalizing full with
  | nil =>
      rw [List.map_eq_nil_iff.mp h]
      exact .nil
  | cons f fields ih =>
      cases full with
      | nil => cases h
      | cons m full =>
          obtain ⟨name, d⟩ := m
          obtain ⟨hname, hrest⟩ := List.cons.inj h
          cases hname
          exact .keep (f.leeway.refl d) (ih hrest)

/-- What members hold of a field: one form of its value, or nothing if this is the default. -/
def Holds (members : List (String × Document)) (f : Field) (m : String × Document) : Prop :=
  (valuesOf f.name members = [] ∧ f.default? = some m.2) ∨
    ∃ form, valuesOf f.name members = [form] ∧ f.leeway.allows m.2 form

theorem valuesOf_cons_self (name : String) (d : Document) (members : List (String × Document)) :
    valuesOf name ((name, d) :: members) = d :: valuesOf name members := by
  simp [valuesOf]

theorem valuesOf_cons_of_ne {name other : String} (h : other ≠ name) (d : Document)
    (members : List (String × Document)) :
    valuesOf name ((other, d) :: members) = valuesOf name members := by
  simp [valuesOf, h]

/-- A known name that is no field's is not there. -/
theorem Stands.valuesOf_eq_nil (h : Stands known fields full members) {name : String}
    (hknown : name ∈ known) (hfields : name ∉ fields.map (·.name)) :
    valuesOf name members = [] := by
  induction h with
  | nil => rfl
  | keep _ _ ih =>
      obtain ⟨hne, hrest⟩ := not_or.mp (mt List.mem_cons.mpr hfields)
      rw [valuesOf_cons_of_ne (Ne.symm hne), ih hrest]
  | drop _ _ ih => exact ih (not_or.mp (mt List.mem_cons.mpr hfields)).2
  | add _ hunknown _ ih =>
      have hne := ne_of_mem_of_not_mem hknown hunknown
      rw [valuesOf_cons_of_ne hne.symm, ih hfields]

/-- A member under another name does not matter for what is held of a field. -/
theorem holds_cons (h : List.Forall₂ (Holds members) fields full) {name : String}
    (hname : name ∉ fields.map (·.name)) (d : Document) :
    List.Forall₂ (Holds ((name, d) :: members)) fields full := by
  induction h with
  | nil => exact .nil
  | cons hheld _ ih =>
      obtain ⟨hne, hrest⟩ := not_or.mp (mt List.mem_cons.mpr hname)
      refine .cons ?_ (ih hrest)
      unfold Holds
      rwa [valuesOf_cons_of_ne hne]

theorem Stands.holds (h : Stands known fields full members)
    (hdistinct : (fields.map (·.name)).Nodup) (hknown : fields.map (·.name) ⊆ known) :
    List.Forall₂ (Holds members) fields full := by
  induction h with
  | nil => exact .nil
  | @keep f fields full members d form hform hrest ih =>
      obtain ⟨hname, hdistinct⟩ := List.nodup_cons.mp hdistinct
      obtain ⟨hfirst, hknown⟩ := List.cons_subset.mp hknown
      refine .cons (.inr ⟨form, ?_, hform⟩) (holds_cons (ih hdistinct hknown) hname form)
      rw [valuesOf_cons_self, hrest.valuesOf_eq_nil hfirst hname]
  | drop hdefault hrest ih =>
      obtain ⟨hname, hdistinct⟩ := List.nodup_cons.mp hdistinct
      obtain ⟨hfirst, hknown⟩ := List.cons_subset.mp hknown
      exact .cons (.inl ⟨hrest.valuesOf_eq_nil hfirst hname, hdefault⟩) (ih hdistinct hknown)
  | add d hunknown _ ih =>
      exact holds_cons (ih hdistinct hknown) (fun hmem => hunknown (hknown hmem)) d

/-- Where the names differ, each form of a record holds all of its fields. -/
theorem exists_holds_of_allows {d form : Document} (hdistinct : (fields.map (·.name)).Nodup)
    (hfull : d = record full) (hnames : full.map (·.1) = fields.map (·.name))
    (h : (Leeway.recordOf fields).allows d form) :
    ∃ members, form = record members ∧ List.Forall₂ (Holds members) fields full := by
  obtain ⟨members, rfl, hstands⟩ : ∃ members, form = record members ∧
      Stands (fields.map (·.name)) fields full members := by
    rcases h with rfl | ⟨other, members, heq, rfl, hstands⟩
    · exact ⟨full, hfull, .refl _ hnames⟩
    · cases heq.symm.trans hfull
      exact ⟨members, rfl, hstands⟩
  exact ⟨members, rfl, hstands.holds hdistinct (List.Subset.refl _)⟩

/-! ## Values of several kinds -/

/-- The document may be written in no other form. -/
def Leeway.Fixes (leeway : Leeway) (d : Document) : Prop :=
  ∀ form, leeway.allows d form → form = d

theorem fixes_exact (d : Document) : Leeway.exact.Fixes d := fun _ h => h

theorem fixes_listOf_null (item : Leeway) : (Leeway.listOf item).Fixes null := by
  rintro form (rfl | ⟨items, forms, heq, -⟩)
  · rfl
  · cases heq

theorem fixes_recordOf (hnames : full.map (·.1) ≠ fields.map (·.name)) :
    (Leeway.recordOf fields).Fixes (record full) := by
  rintro form (rfl | ⟨other, members, heq, -, hstands⟩)
  · rfl
  · cases heq
    exact absurd hstands.names_eq hnames

variable {first second : Leeway} {d : Document}

theorem fixes_or (hfirst : first.Fixes d) (hsecond : second.Fixes d) :
    (first.or second).Fixes d :=
  fun form h => h.elim (hfirst form) (hsecond form)

theorem allows_of_or_left {form : Document} (hsecond : second.Fixes d)
    (h : (first.or second).allows d form) : first.allows d form := by
  rcases h with h | h
  · exact h
  · rw [hsecond form h]
    exact first.refl d

theorem allows_of_or_right {form : Document} (hfirst : first.Fixes d)
    (h : (first.or second).allows d form) : second.allows d form := by
  rcases h with h | h
  · rw [hfirst form h]
    exact second.refl d
  · exact h

/-! ## Readers -/

variable {α : Type} {leeway : Leeway} {read : Document → Option α} {write : α → Document}

/-- Every form of what is written is read as the value. -/
def Reads (leeway : Leeway) (read : Document → Option α) (write : α → Document) : Prop :=
  ∀ a form, leeway.allows (write a) form → read form = some a

theorem reads_exact (h : ∀ a, read (write a) = some a) : Reads .exact read write := by
  rintro a form rfl
  exact h a

namespace Reads

theorem read_write (h : Reads leeway read write) (a : α) : read (write a) = some a :=
  h a _ (leeway.refl _)

theorem write_injective (h : Reads leeway read write) : Function.Injective write := by
  intro a b heq
  have hread := h.read_write a
  rw [heq, h.read_write b] at hread
  exact (Option.some.inj hread).symm

theorem required_eq {name : String} {a : α} (h : Reads leeway read write)
    (hheld : Holds members ⟨name, none, leeway⟩ (name, write a)) :
    required name members read = some a := by
  rcases hheld with ⟨-, hdefault⟩ | ⟨form, hform, hallows⟩
  · cases hdefault
  · have hform : valuesOf name members = [form] := hform
    rw [required, hform]
    exact h a form hallows

theorem optional_eq {name : String} {a default : α} (h : Reads leeway read write)
    (hheld : Holds members ⟨name, some (write default), leeway⟩ (name, write a)) :
    optional name members default read = some a := by
  rcases hheld with ⟨hnone, hdefault⟩ | ⟨form, hform, hallows⟩
  · have hnone : valuesOf name members = [] := hnone
    rw [optional, hnone, h.write_injective (Option.some.inj hdefault)]
  · have hform : valuesOf name members = [form] := hform
    rw [optional, hform]
    exact h a form hallows

/-- A value that may be absent is null then, which is nothing else that is read. -/
theorem nullable (h : Reads leeway read write) (hread : read null = none)
    (hnull : leeway.Fixes null) : Reads leeway (readNullable? read) (ofNullable write) := by
  intro a form hallows
  cases a with
  | none =>
      rw [hnull form hallows]
      rfl
  | some a =>
      have hform := h a form hallows
      unfold readNullable?
      split
      · rw [hread] at hform
        cases hform
      · rw [hform, Option.map_some]

theorem nullable_eq {name : String} {a : Option α}
    (h : Reads leeway (readNullable? read) (ofNullable write))
    (hheld : Holds members ⟨name, some null, leeway⟩ (name, ofNullable write a)) :
    Document.nullable name members read = some a := by
  rw [Document.nullable]
  exact h.optional_eq hheld

end Reads

/-- A record is read from all its forms if it is read from any members that hold its fields. -/
theorem reads_record (write : α → List (String × Document))
    (hdistinct : (fields.map (·.name)).Nodup)
    (hnames : ∀ a, (write a).map (·.1) = fields.map (·.name))
    (h : ∀ a members, List.Forall₂ (Holds members) fields (write a) →
      read (record members) = some a) :
    Reads (.recordOf fields) read fun a => record (write a) := by
  intro a form hallows
  obtain ⟨members, rfl, hheld⟩ := exists_holds_of_allows hdistinct rfl (hnames a) hallows
  exact h a members hheld

/-! ## Readers of values -/

theorem reads_text : Reads .exact readText? text := reads_exact fun _ => rfl

theorem reads_word {word : α → String} {meaning : String → Option α}
    (h : ∀ a, meaning (word a) = some a) :
    Reads .exact (readWord? meaning) fun a => text (word a) :=
  reads_exact h

theorem reads_amount : Reads .exact readAmount? ofAmount := reads_exact Amount.ofInt?_val

theorem reads_units : Reads .exact readUnits? ofUnits := reads_exact fun n => by
  have hrange : (0 : Int) ≤ n.toNat ∧ (n.toNat : Int) < UInt32.size :=
    ⟨Int.natCast_nonneg _, Int.ofNat_lt.mpr n.toNat_lt⟩
  rw [readUnits?, ofUnits, readBelow?, if_pos hrange, Option.map_some, Int.toNat_natCast,
    UInt32.ofNat_toNat]

theorem reads_nullable_text : Reads .exact (readNullable? readText?) (ofNullable text) :=
  reads_text.nullable rfl (fixes_exact null)

theorem mapM_eq_some_of_forall₂ {β : Type} {read : β → Option α} {forms : List β} {as : List α}
    (h : List.Forall₂ (fun form a => read form = some a) forms as) :
    forms.mapM read = some as := by
  induction h with
  | nil => rfl
  | cons hform _ ih => simp [List.mapM_cons, hform, ih]

theorem Reads.list (h : Reads leeway read write) :
    Reads (.listOf leeway) (readList? read) (ofList write) := by
  intro as form hallows
  obtain ⟨forms, rfl, hforms⟩ : ∃ forms, form = Document.list forms ∧
      List.Forall₂ leeway.allows (as.map write) forms := by
    rcases hallows with rfl | ⟨items, forms, heq, rfl, hforms⟩
    · exact ⟨as.map write, rfl, List.forall₂_same.mpr fun d _ => leeway.refl d⟩
    · cases heq
      exact ⟨forms, rfl, hforms⟩
  have hread : List.Forall₂ (fun a form => read form = some a) as forms :=
    (List.forall₂_map_left_iff.mp hforms).imp h
  rw [readList?]
  exact mapM_eq_some_of_forall₂ hread.flip

theorem reads_list_text : Reads .exact (readList? readText?) (ofList text) :=
  reads_exact reads_text.list.read_write

theorem reads_names : Reads .exact readNames? ofNames := reads_exact fun s => by
  rw [readNames?, ofNames, reads_list_text.read_write, Option.map_some, NameSet.ofList_toList]

theorem reads_table (h : ∀ a, read (write a) = some a) :
    Reads .exact (readTable? read) (ofTable write) := reads_exact fun t => by
  have hentries : List.Forall₂
      (fun m e => (read m.2).map (m.1, ·) = some e)
      (t.entries.map fun e => (e.1, write e.2)) t.entries := by
    refine List.forall₂_map_left_iff.mpr (List.forall₂_same.mpr fun e _ => ?_)
    rw [h, Option.map_some]
  unfold ofTable
  rw [readTable?, mapM_eq_some_of_forall₂ hentries, Option.map_some, Table.ofList_entries]

theorem reads_texts : Reads .exact readTexts? ofTexts := reads_table fun _ => rfl

end Allotment.Document
