import Allotment.Proofs.Document.Acceptance
import Allotment.Proofs.Document.Plain

/-!
# Documents without what is default

A record may be written without members that have their default values, and with its members in
another order; so may the records in it. `Abridges` relates such a document to the full one.
Where a reader of optional fields and a schema know the same defaults, nothing is lost by it
(`Restores`).
-/

namespace Allotment.Document

mutual
/-- The last document is the second one without some members that are as in the first one, the
defaults, and with its members in any order. -/
inductive Abridges : Document → Document → Document → Prop
  | whole (defaults d : Document) : Abridges defaults d d
  | record {defaults full kept short : List (String × Document)} :
      AbridgesMembers defaults full kept → kept.Perm short →
      Abridges (record defaults) (record full) (record short)
/-- Of members under the same names as the defaults some are left out and the others kept, in
full or not. -/
inductive AbridgesMembers :
    List (String × Document) → List (String × Document) → List (String × Document) → Prop
  | nil : AbridgesMembers [] [] []
  | drop {defaults full kept : List (String × Document)} (name : String) (d : Document) :
      AbridgesMembers defaults full kept →
      AbridgesMembers ((name, d) :: defaults) ((name, d) :: full) kept
  | keep {defaults full kept : List (String × Document)} {default d short : Document}
      (name : String) : Abridges default d short → AbridgesMembers defaults full kept →
      AbridgesMembers ((name, default) :: defaults) ((name, d) :: full) ((name, short) :: kept)
end

/-! ## What is left is plain -/

mutual
theorem Abridges.isPlain {defaults d short : Document} (h : Abridges defaults d short)
    (hd : d.isPlain = true) : short.isPlain = true := by
  cases h with
  | whole => exact hd
  | record hkept hperm =>
      have hplain := havePlain_iff.mp (hkept.havePlain hd)
      exact havePlain_iff.mpr fun m hm => hplain m (hperm.mem_iff.mpr hm)
theorem AbridgesMembers.havePlain {defaults full kept : List (String × Document)}
    (h : AbridgesMembers defaults full kept) (hfull : Document.havePlain full = true) :
    Document.havePlain kept = true := by
  cases h with
  | nil => rfl
  | drop _ _ hkept => exact hkept.havePlain (Bool.and_eq_true_iff.mp hfull).2
  | keep _ hshort hkept =>
      obtain ⟨hfirst, hrest⟩ := Bool.and_eq_true_iff.mp hfull
      exact Bool.and_eq_true_iff.mpr ⟨hshort.isPlain hfirst, hkept.havePlain hrest⟩
end

/-! ## What is found in it -/

theorem AbridgesMembers.names_sublist {defaults full kept : List (String × Document)}
    (h : AbridgesMembers defaults full kept) : (kept.map (·.1)).Sublist (full.map (·.1)) := by
  cases h with
  | nil => exact List.Sublist.slnil
  | drop _ _ hkept => exact hkept.names_sublist.cons _
  | keep _ _ hkept => exact hkept.names_sublist.cons_cons _

/-- Nothing has to be left out. -/
theorem AbridgesMembers.refl {defaults full : List (String × Document)}
    (h : defaults.map (·.1) = full.map (·.1)) : AbridgesMembers defaults full full := by
  induction full generalizing defaults with
  | nil =>
      rw [List.map_eq_nil_iff.mp h]
      exact .nil
  | cons m ms ih =>
      cases defaults with
      | nil => cases h
      | cons x xs =>
          obtain ⟨name, default⟩ := x
          obtain ⟨hname, hrest⟩ := List.cons.inj h
          cases hname
          exact .keep _ (.whole _ _) (ih hrest)

/-- What a table holds under a name is what is left of a value: nothing if it is the default, or
the value in full or not. -/
def Keeps (t : Table Document) (name : String) (default value : Document) : Prop :=
  (t.get? name = none ∧ value = default) ∨
    ∃ d, t.get? name = some d.normalise ∧ Abridges default value d

/-- A table keeps all members of a record if it holds those that were kept and, of their names, no
others. -/
theorem AbridgesMembers.keeps {t : Table Document} {defaults full kept : List (String × Document)}
    (h : AbridgesMembers defaults full kept) (hnames : (full.map (·.1)).Nodup)
    (hfound : ∀ m ∈ kept, t.get? m.1 = some m.2.normalise)
    (hmissing : ∀ name ∈ full.map (·.1), name ∉ kept.map (·.1) → t.get? name = none) :
    List.Forall₂ (fun x m => Keeps t m.1 x.2 m.2) defaults full := by
  cases h with
  | nil => exact .nil
  | drop name d hkept =>
      obtain ⟨hname, hnames⟩ := List.nodup_cons.mp hnames
      -- A name that is left out is no later name, so nothing was kept under it.
      have hhere : t.get? name = none :=
        hmissing name List.mem_cons_self fun hmem => hname (hkept.names_sublist.subset hmem)
      refine .cons (.inl ⟨hhere, rfl⟩) (hkept.keeps hnames hfound fun other hmem hother => ?_)
      exact hmissing other (List.mem_cons_of_mem _ hmem) hother
  | keep name hshort hkept =>
      obtain ⟨hname, hnames⟩ := List.nodup_cons.mp hnames
      have hhere := (List.forall_mem_cons.mp hfound).1
      have hrest := (List.forall_mem_cons.mp hfound).2
      refine .cons (.inr ⟨_, hhere, hshort⟩) (hkept.keeps hnames hrest fun other hmem hother => ?_)
      refine hmissing other (List.mem_cons_of_mem _ hmem) fun hall => ?_
      rcases List.mem_cons.mp hall with rfl | hlater
      · exact hname hmem
      · exact hother hlater

/-- An abridged record in order, as a table with what is left of each member. -/
theorem exists_table_of_abridges {defaults full : List (String × Document)} {short : Document}
    (h : Abridges (record defaults) (record full) short)
    (hdefaults : defaults.map (·.1) = full.map (·.1)) (hnames : (full.map (·.1)).Nodup) :
    ∃ t : Table Document, short.normalise = record t.entries ∧
      (∀ name d, t.get? name = some d → name ∈ full.map (·.1)) ∧
      List.Forall₂ (fun x m => Keeps t m.1 x.2 m.2) defaults full := by
  obtain ⟨kept, members, rfl, hkept, hperm⟩ : ∃ kept members, short = record members ∧
      AbridgesMembers defaults full kept ∧ kept.Perm members := by
    cases h with
    | whole => exact ⟨full, full, rfl, .refl hdefaults, .refl _⟩
    | record hkept hperm => exact ⟨_, _, rfl, hkept, hperm⟩
  have hpermuted : (kept.map (·.1)).Perm (members.map (·.1)) := hperm.map _
  have hdistinct : (members.map (·.1)).Nodup :=
    hpermuted.nodup_iff.mp (hkept.names_sublist.nodup hnames)
  refine ⟨tableOf members, normalise_record members, fun name d hd => ?_, ?_⟩
  · obtain ⟨m, hm, rfl, -⟩ := mem_of_get?_tableOf hd
    exact hkept.names_sublist.subset (hpermuted.mem_iff.mpr (List.mem_map_of_mem hm))
  · refine hkept.keeps hnames (fun m hm => ?_) fun name _ hname => ?_
    · exact get?_tableOf_of_mem hdistinct (hperm.mem_iff.mp hm)
    · exact get?_tableOf_of_notMem fun hmem => hname (hpermuted.mem_iff.mpr hmem)

/-! ## Values that are restored -/

variable {α : Type}

/-- Whatever is left of the written value is acceptable and read as the value. -/
structure Restores (schema : Schema) (read : Document → Option α) (write : α → Document)
    (default value : α) : Prop where
  reads_default : read (write default).normalise = some default
  accepts : ∀ d, Abridges (write default) (write value) d → schema.accepts d.normalise = true
  reads : ∀ d, Abridges (write default) (write value) d → read d.normalise = some value

/-- A value is no list and no record. -/
def isLeaf : Document → Bool
  | list _ => false
  | record _ => false
  | _ => true

theorem normalise_of_isLeaf {d : Document} (h : d.isLeaf = true) : d.normalise = d := by
  cases d with
  | list => cases h
  | record => cases h
  | _ => rfl

/-- Nothing can be left out of a value that holds no others. -/
theorem Abridges.eq_of_isLeaf {defaults d short : Document} (h : Abridges defaults d short)
    (hd : d.isLeaf = true) : short = d := by
  cases h with
  | whole => rfl
  | record => cases hd

theorem restores_of_isLeaf {schema : Schema} {read : Document → Option α} {write : α → Document}
    {default value : α} (hleaf : ∀ a, (write a).isLeaf = true)
    (hread : ∀ a, read (write a) = some a) (haccepts : schema.accepts (write value) = true) :
    Restores schema read write default value := by
  have hwhole {d : Document} (h : Abridges (write default) (write value) d) :
      d.normalise = write value := by
    rw [h.eq_of_isLeaf (hleaf value), normalise_of_isLeaf (hleaf value)]
  refine ⟨?_, fun d h => ?_, fun d h => ?_⟩
  · rw [normalise_of_isLeaf (hleaf default), hread]
  · rw [hwhole h, haccepts]
  · rw [hwhole h, hread]

namespace Restores

variable {schema : Schema} {read : Document → Option α} {write : α → Document}
  {default value : α} {t : Table Document} {name : String}

/-- A value that is written like the default is the default. -/
theorem eq_default (h : Restores schema read write default value)
    (heq : write value = write default) : value = default := by
  have hvalue := h.reads _ (.whole _ _)
  rw [heq, h.reads_default] at hvalue
  exact (Option.some.inj hvalue).symm

theorem optional_eq (h : Restores schema read write default value)
    (hkeeps : Keeps t name (write default) (write value)) :
    optional name t.entries default read = some value := by
  rw [optional_entries]
  rcases hkeeps with ⟨hnone, heq⟩ | ⟨d, hd, habridges⟩
  · rw [hnone, h.eq_default heq]
  · rw [hd]
    exact h.reads d habridges

theorem accepts_of_keeps (h : Restores schema read write default value)
    (hkeeps : Keeps t name (write default) (write value)) :
    ∀ v, t.get? name = some v → schema.accepts v = true := by
  rcases hkeeps with ⟨hnone, -⟩ | ⟨d, hd, habridges⟩
  · simp [hnone]
  · simpa [hd] using h.accepts d habridges

end Restores

/-! ## Records that are restored -/

/-- A table is an acceptable record if its names are known and its values acceptable. -/
theorem accepts_closed_entries {properties : List (String × Schema)} {t : Table Document}
    (hnames : ∀ name v, t.get? name = some v → ∃ p ∈ properties, p.1 = name)
    (hvalues : ∀ p ∈ properties, ∀ v, t.get? p.1 = some v → p.2.accepts v = true) :
    (Schema.closed properties).accepts (record t.entries) = true := by
  refine Schema.accepts_closed_iff.mpr ⟨t.entries, rfl, fun m hm => ?_, fun p hp v hv => ?_⟩
  · exact hnames m.1 m.2 (Table.get?_eq_some_iff.mpr hm)
  · exact hvalues p hp v (by rwa [member?_entries] at hv)

/-- A record is restored if any table is acceptable, and read as the value, that keeps each of its
members and has no other names. -/
theorem restores_record (members : α → List (String × Document)) (names : List String)
    {properties : List (String × Schema)} {read : Document → Option α} {default value : α}
    (hmembers : ∀ a, (members a).map (·.1) = names) (hdistinct : names.Nodup)
    (hknown : ∀ name ∈ names, ∃ p ∈ properties, p.1 = name)
    (hdefault : read (record (members default)).normalise = some default)
    (h : ∀ t : Table Document, (∀ name, name ∉ names → t.get? name = none) →
      List.Forall₂ (fun x m => Keeps t m.1 x.2 m.2) (members default) (members value) →
      (∀ p ∈ properties, ∀ v, t.get? p.1 = some v → p.2.accepts v = true) ∧
        read (record t.entries) = some value) :
    Restores (Schema.closed properties) read (fun a => record (members a)) default value := by
  have htable {d : Document}
      (hd : Abridges (record (members default)) (record (members value)) d) :
      ∃ t : Table Document, d.normalise = record t.entries ∧
        (∀ name v, t.get? name = some v → name ∈ names) ∧
        (∀ p ∈ properties, ∀ v, t.get? p.1 = some v → p.2.accepts v = true) ∧
        read (record t.entries) = some value := by
    obtain ⟨t, hnormal, hnames, hkeeps⟩ := exists_table_of_abridges hd
      ((hmembers default).trans (hmembers value).symm) (by rwa [hmembers])
    rw [hmembers] at hnames
    have hmissing (name : String) (hname : name ∉ names) : t.get? name = none :=
      Option.eq_none_iff_forall_ne_some.mpr fun v hv => hname (hnames name v hv)
    obtain ⟨haccepts, hread⟩ := h t hmissing hkeeps
    exact ⟨t, hnormal, hnames, haccepts, hread⟩
  refine ⟨hdefault, fun d hd => ?_, fun d hd => ?_⟩
  · obtain ⟨t, hnormal, hnames, haccepts, -⟩ := htable hd
    rw [hnormal]
    exact accepts_closed_entries (fun name v hv => hknown name (hnames name v hv)) haccepts
  · obtain ⟨t, hnormal, -, -, hread⟩ := htable hd
    rw [hnormal, hread]

end Allotment.Document
