import Allotment.Proofs.Document.Records

/-!
# What schemas accept

A schema accepts a document if none of its rules finds anything. For the few forms of schema that
configuration files are held against it is said here which documents these are.
-/

namespace Allotment.Schema

theorem accepts_iff {schema : Schema} {d : Document} :
    schema.accepts d = true ↔ schema.violations d = [] := List.isEmpty_iff

/-- Nothing is found about the members exactly if each has what is asked of it. -/
theorem propertyViolations_eq_nil_iff {properties : List (String × Schema)} {d : Document} :
    propertyViolations properties d = [] ↔
      ∀ p ∈ properties, ∀ v, member? p.1 d = some v → p.2.accepts v = true := by
  induction properties with
  | nil => simp [propertyViolations]
  | cons p ps ih =>
      obtain ⟨name, schema⟩ := p
      rw [propertyViolations, List.append_eq_nil_iff, ih, List.forall_mem_cons]
      refine and_congr_left fun _ => ?_
      cases hvalue : member? name d with
      | none => simp
      | some v => simp [accepts_iff]

theorem strangers_eq_nil_iff {properties : List (String × Schema)}
    {members : List (String × Document)} :
    strangers properties members = [] ↔ ∀ m ∈ members, ∃ p ∈ properties, p.1 = m.1 := by
  simp [strangers]

variable {d : Document}

/-! ## What the single checks find -/

theorem wordViolations_none : wordViolations none d = [] := by cases d <;> rfl

theorem wordViolations_eq_nil_iff {words : List String} :
    wordViolations (some words) d = [] ↔ ∃ s ∈ words, d = .text s := by
  cases d <;> simp [wordViolations]

theorem lengthViolations_none : lengthViolations none d = [] := by cases d <;> rfl

theorem lengthViolations_eq_nil_iff {least : Nat} :
    lengthViolations (some least) d = [] ↔ ∀ s, d = .text s → least ≤ s.length := by
  cases d <;> simp [lengthViolations]

theorem minimumViolations_none : minimumViolations none d = [] := by cases d <;> rfl

theorem minimumViolations_eq_nil_iff {least : Int} :
    minimumViolations (some least) d = [] ↔
      (∀ n, d = .integer n → least ≤ n) ∧ ∀ x, d = .real x → x.ltInt least = false := by
  cases d <;> simp [minimumViolations]

theorem kindViolations_eq_nil_iff {kind : ValueKind} :
    kindViolations (some kind) d = [] ↔ kind.admits d = true := by simp [kindViolations]

theorem strangerViolations_open {properties : List (String × Schema)} :
    strangerViolations properties false d = [] := by cases d <;> rfl

theorem strangerViolations_record_eq_nil_iff {properties : List (String × Schema)}
    {members : List (String × Document)} :
    strangerViolations properties true (.record members) = [] ↔
      ∀ m ∈ members, ∃ p ∈ properties, p.1 = m.1 := by
  rw [← strangers_eq_nil_iff, strangerViolations]
  cases strangers properties members <;> simp

/-- Which values are of a kind. -/
theorem admits_iff {kind : ValueKind} :
    kind.admits d = true ↔
      match kind with
      | .null => d = .null
      | .boolean => ∃ b, d = .bool b
      | .integer => (∃ n, d = .integer n) ∨ ∃ x, d = .real x ∧ x.isWhole = true
      | .number => (∃ n, d = .integer n) ∨ ∃ x, d = .real x
      | .string => ∃ s, d = .text s
      | .array => ∃ items, d = .list items
      | .object => ∃ members, d = .record members := by
  cases kind <;> cases d <;> simp [ValueKind.admits]

/-! ## Values that hold no others -/

/-- A schema that asks nothing of members. -/
def leaf (kind : ValueKind) (words : Option (List String)) (minLength : Option Nat)
    (minimum : Option Int) : Schema :=
  rules (some kind) words minLength minimum [] false

theorem accepts_leaf_iff {kind : ValueKind} {words : Option (List String)}
    {minLength : Option Nat} {minimum : Option Int} :
    (leaf kind words minLength minimum).accepts d = true ↔
      wordViolations words d = [] ∧ lengthViolations minLength d = [] ∧
        minimumViolations minimum d = [] ∧ kind.admits d = true := by
  rw [accepts_iff, leaf, violations, propertyViolations, strangerViolations_open]
  simp only [List.append_nil, List.append_eq_nil_iff, kindViolations_eq_nil_iff, and_assoc]

def someText : Schema := leaf .string none none none

def nonEmptyText : Schema := leaf .string none (some 1) none

def oneOf (words : List String) : Schema := leaf .string (some words) none none

def wholeFrom (least : Int) : Schema := leaf .integer none none (some least)

def switch : Schema := leaf .boolean none none none

theorem accepts_nonEmptyText_iff :
    nonEmptyText.accepts d = true ↔ ∃ s, d = .text s ∧ s ≠ "" := by
  rw [nonEmptyText, accepts_leaf_iff, wordViolations_none, lengthViolations_eq_nil_iff,
    minimumViolations_none, admits_iff]
  constructor
  · rintro ⟨-, hlength, -, s, rfl⟩
    have hpositive : 1 ≤ s.length := hlength s rfl
    exact ⟨s, rfl, by rintro rfl; simp at hpositive⟩
  · rintro ⟨s, rfl, hs⟩
    have hpositive : 1 ≤ s.length :=
      Nat.one_le_iff_ne_zero.mpr (mt String.length_eq_zero_iff.mp hs)
    exact ⟨rfl, by rintro _ ⟨⟩; exact hpositive, rfl, s, rfl⟩

theorem accepts_oneOf_iff {words : List String} :
    (oneOf words).accepts d = true ↔ ∃ s ∈ words, d = .text s := by
  rw [oneOf, accepts_leaf_iff, wordViolations_eq_nil_iff, lengthViolations_none,
    minimumViolations_none, admits_iff]
  constructor
  · rintro ⟨hword, -⟩
    exact hword
  · rintro ⟨s, hs, rfl⟩
    exact ⟨⟨s, hs, rfl⟩, rfl, rfl, s, rfl⟩

/-- A whole number may be written with a point or an exponent. -/
theorem accepts_wholeFrom_iff {least : Int} :
    (wholeFrom least).accepts d = true ↔
      (∃ n, d = .integer n ∧ least ≤ n) ∨
        ∃ x, d = .real x ∧ x.isWhole = true ∧ x.ltInt least = false := by
  rw [wholeFrom, accepts_leaf_iff, wordViolations_none, lengthViolations_none,
    minimumViolations_eq_nil_iff, admits_iff]
  constructor
  · rintro ⟨-, -, ⟨hinteger, hreal⟩, ⟨n, rfl⟩ | ⟨x, rfl, hwhole⟩⟩
    · exact .inl ⟨n, rfl, hinteger n rfl⟩
    · exact .inr ⟨x, rfl, hwhole, hreal x rfl⟩
  · rintro (⟨n, rfl, hn⟩ | ⟨x, rfl, hwhole, hx⟩)
    · exact ⟨rfl, rfl, ⟨by rintro _ ⟨⟩; exact hn, by rintro _ ⟨⟩⟩, .inl ⟨n, rfl⟩⟩
    · exact ⟨rfl, rfl, ⟨by rintro _ ⟨⟩, by rintro _ ⟨⟩; exact hx⟩, .inr ⟨x, rfl, hwhole⟩⟩

theorem accepts_switch_iff : switch.accepts d = true ↔ ∃ b, d = .bool b := by
  rw [switch, accepts_leaf_iff, wordViolations_none, lengthViolations_none,
    minimumViolations_none, admits_iff]
  simp only [true_and]

/-! ## Records -/

/-- A record with these members and no others. -/
def closed (properties : List (String × Schema)) : Schema :=
  rules (some .object) none none none properties true

theorem accepts_closed_iff {properties : List (String × Schema)} :
    (closed properties).accepts d = true ↔
      ∃ members, d = .record members ∧ (∀ m ∈ members, ∃ p ∈ properties, p.1 = m.1) ∧
        ∀ p ∈ properties, ∀ v, member? p.1 d = some v → p.2.accepts v = true := by
  rw [accepts_iff, closed, violations, wordViolations_none, lengthViolations_none,
    minimumViolations_none]
  simp only [List.nil_append, List.append_eq_nil_iff, propertyViolations_eq_nil_iff,
    kindViolations_eq_nil_iff, admits_iff]
  constructor
  · rintro ⟨⟨hproperties, hstrangers⟩, members, rfl⟩
    exact ⟨members, rfl, strangerViolations_record_eq_nil_iff.mp hstrangers, hproperties⟩
  · rintro ⟨members, rfl, hknown, hproperties⟩
    exact ⟨⟨hproperties, strangerViolations_record_eq_nil_iff.mpr hknown⟩, members, rfl⟩

end Allotment.Schema
