import Allotment.Document.Json
import Allotment.Document.Written
import Allotment.Amount
import Mathlib.Tactic.IntervalCases

/-!
# Plain texts of documents

`Spells` says which texts of JSON stand for a document: blanks may stand between any two tokens,
while numbers and texts are spelled as they are written. It knows amounts and no other numbers.
Both written forms of a document without other numbers are among its texts (`spells_writeChars`,
`spells_layChars`).
-/

namespace Allotment.Document

/-- Nothing but the four blanks of JSON. -/
def Blanks (cs : List Char) : Prop := ∀ c ∈ cs, Json.isBlank c = true

mutual
/-- The characters are a plain text of the document, with no blanks around it. -/
inductive Spells : Document → List Char → Prop
  | null : Spells null ['n', 'u', 'l', 'l']
  | yes : Spells (bool true) ['t', 'r', 'u', 'e']
  | no : Spells (bool false) ['f', 'a', 'l', 's', 'e']
  | integer (a : Amount) : Spells (integer a.val) (writeInteger a.val)
  | text (s : String) : Spells (text s) (quote s)
  | emptyList {gap : List Char} : Blanks gap → Spells (list []) ('[' :: (gap ++ [']']))
  | list {gap cs : List Char} {items : List Document} : Blanks gap → SpellsItems items cs →
      Spells (list items) ('[' :: (gap ++ (cs ++ [']'])))
  | emptyRecord {gap : List Char} : Blanks gap → Spells (record []) ('{' :: (gap ++ ['}']))
  | record {gap cs : List Char} {members : List (String × Document)} : Blanks gap →
      SpellsMembers members cs → Spells (record members) ('{' :: (gap ++ (cs ++ ['}'])))
/-- The characters are the texts of the items, with commas between them. -/
inductive SpellsItems : List Document → List Char → Prop
  | last {d : Document} {cs gap : List Char} : Spells d cs → Blanks gap →
      SpellsItems [d] (cs ++ gap)
  | more {d : Document} {ds : List Document} {cs gap before rest : List Char} :
      Spells d cs → Blanks gap → Blanks before → SpellsItems ds rest →
      SpellsItems (d :: ds) (cs ++ (gap ++ ',' :: (before ++ rest)))
/-- The characters are the names and texts of the members, with commas between them. -/
inductive SpellsMembers : List (String × Document) → List Char → Prop
  | last {name : String} {d : Document} {cs behind before gap : List Char} :
      Blanks behind → Blanks before → Spells d cs → Blanks gap →
      SpellsMembers [(name, d)] (quote name ++ (behind ++ ':' :: (before ++ (cs ++ gap))))
  | more {name : String} {d : Document} {ms : List (String × Document)}
      {cs behind before gap next rest : List Char} :
      Blanks behind → Blanks before → Spells d cs → Blanks gap → Blanks next → SpellsMembers ms rest →
      SpellsMembers ((name, d) :: ms)
        (quote name ++ (behind ++ ':' :: (before ++ (cs ++ (gap ++ ',' :: (next ++ rest))))))
end

/-! ## Escapes -/

/-- A character is escaped by a letter or by its code point, or it stands for itself. -/
theorem escape_cases (c : Char) :
    (∃ letter, escapeLetter? c = some letter ∧ escape c = ['\\', letter]) ∨
      (c.toNat < 32 ∧ escape c =
        ['\\', 'u', '0', '0', Nat.digitChar (c.toNat / 16), Nat.digitChar (c.toNat % 16)]) ∨
      escapeLetter? c = none ∧ ¬ c.toNat < 32 ∧ escape c = [c] := by
  unfold escape
  cases hletter : escapeLetter? c with
  | some letter => exact .inl ⟨letter, rfl, rfl⟩
  | none =>
      by_cases hcontrol : c.toNat < 32
      · exact .inr (.inl ⟨hcontrol, if_pos hcontrol⟩)
      · exact .inr (.inr ⟨rfl, hcontrol, if_neg hcontrol⟩)

theorem length_le_flatMap_escape (cs : List Char) : cs.length ≤ (cs.flatMap escape).length := by
  induction cs with
  | nil => exact Nat.le_refl 0
  | cons c cs ih =>
      have hc : 0 < (escape c).length := by
        obtain ⟨letter, -, hescape⟩ | ⟨-, hescape⟩ | ⟨-, -, hescape⟩ := escape_cases c
        all_goals simp [hescape]
      rw [List.flatMap_cons, List.length_append, List.length_cons]
      omega

/-- What is not escaped by a letter is none of the characters that are. -/
theorem ne_of_escapeLetter? {c d letter : Char} (hc : escapeLetter? c = none)
    (hd : escapeLetter? d = some letter) : c ≠ d := by
  intro heq
  rw [heq, hd] at hc
  cases hc

/-! ## Documents that are written plainly -/

mutual
/-- The document is legible, and it holds no numbers but amounts. -/
def isPlain : Document → Bool
  | integer n => -9223372036854775808 ≤ n && n ≤ 9223372036854775807
  | list items => arePlain items
  | record members => havePlain members
  | real _ | illegible => false
  | null | bool _ | text _ => true
termination_by structural d => d
def arePlain : List Document → Bool
  | [] => true
  | d :: ds => isPlain d && arePlain ds
termination_by structural ds => ds
def havePlain : List (String × Document) → Bool
  | [] => true
  | (_, d) :: ms => isPlain d && havePlain ms
termination_by structural ms => ms
end

theorem blanks_nil : Blanks [] := fun _ hc => nomatch hc

theorem blanks_lineBreak (level : Nat) : Blanks (lineBreak level) := by
  intro c hc
  rcases List.mem_cons.mp hc with rfl | hc
  · decide
  · rw [List.eq_of_mem_replicate hc]
    rfl

mutual
theorem spells_writeChars (d : Document) (h : d.isPlain = true) : Spells d (writeChars d) := by
  cases d with
  | null => exact .null
  | bool b =>
      cases b with
      | true => exact .yes
      | false => exact .no
  | integer n =>
      have hrange : -9223372036854775808 ≤ n ∧ n ≤ 9223372036854775807 := by
        simpa [isPlain] using h
      exact .integer ⟨n, hrange.1, hrange.2⟩
  | real x => cases h
  | text s => exact .text s
  | list items =>
      by_cases hempty : items = []
      · subst hempty
        exact .emptyList blanks_nil
      · exact .list blanks_nil (spells_writeItems items hempty h)
  | record members =>
      by_cases hempty : members = []
      · subst hempty
        exact .emptyRecord blanks_nil
      · exact .record blanks_nil (spells_writeMembers members hempty h)
  | illegible => cases h
termination_by structural d
theorem spells_writeItems (items : List Document) (hempty : items ≠ [])
    (h : arePlain items = true) : SpellsItems items (writeItems items) := by
  cases items with
  | nil => exact absurd rfl hempty
  | cons d ds =>
      obtain ⟨hfirst, hrest⟩ := Bool.and_eq_true_iff.mp h
      have hd := spells_writeChars d hfirst
      by_cases hlast : ds = []
      · subst hlast
        simpa [writeItems] using SpellsItems.last hd blanks_nil
      · have hds := spells_writeItems ds hlast hrest
        cases ds with
        | nil => exact absurd rfl hlast
        | cons d' ds => exact SpellsItems.more hd blanks_nil blanks_nil hds
termination_by structural items
theorem spells_writeMembers (members : List (String × Document)) (hempty : members ≠ [])
    (h : havePlain members = true) : SpellsMembers members (writeMembers members) := by
  cases members with
  | nil => exact absurd rfl hempty
  | cons m ms =>
      obtain ⟨name, d⟩ := m
      obtain ⟨hfirst, hrest⟩ := Bool.and_eq_true_iff.mp h
      have hd := spells_writeChars d hfirst
      by_cases hlast : ms = []
      · subst hlast
        simpa [writeMembers] using SpellsMembers.last blanks_nil blanks_nil hd blanks_nil
      · have hms := spells_writeMembers ms hlast hrest
        cases ms with
        | nil => exact absurd rfl hlast
        | cons m' ms =>
            simpa [writeMembers] using SpellsMembers.more blanks_nil blanks_nil hd blanks_nil blanks_nil hms
termination_by structural members
end

theorem blanks_singleton : Blanks [' '] := by
  intro c hc
  rw [List.mem_singleton.mp hc]
  decide

mutual
/-- Over several lines, too, a document is spelled. What stands in a list or record begins with a
line break, and another one stands behind it. -/
theorem spells_layChars (level : Nat) (d : Document) (h : d.isPlain = true) :
    Spells d (layChars level d) := by
  cases d with
  | null => exact .null
  | bool b =>
      cases b with
      | true => exact .yes
      | false => exact .no
  | integer n => exact spells_writeChars (integer n) h
  | real x => cases h
  | text s => exact .text s
  | list items =>
      by_cases hempty : items = []
      · subst hempty
        exact .emptyList blanks_nil
      · obtain ⟨cs, hcs, hspells⟩ := spells_layItems (level + 1) items hempty h
        have hlist := Spells.list (blanks_lineBreak (level + 1)) (hspells (blanks_lineBreak level))
        cases items with
        | nil => exact absurd rfl hempty
        | cons d ds => simpa [layChars, hcs] using hlist
  | record members =>
      by_cases hempty : members = []
      · subst hempty
        exact .emptyRecord blanks_nil
      · obtain ⟨cs, hcs, hspells⟩ := spells_layMembers (level + 1) members hempty h
        have hrecord := Spells.record (blanks_lineBreak (level + 1)) (hspells (blanks_lineBreak level))
        cases members with
        | nil => exact absurd rfl hempty
        | cons m ms => simpa [layChars, hcs] using hrecord
  | illegible => cases h
termination_by structural d
theorem spells_layItems (level : Nat) (items : List Document) (hempty : items ≠ [])
    (h : arePlain items = true) :
    ∃ cs, layItems level items = lineBreak level ++ cs ∧
      ∀ {gap}, Blanks gap → SpellsItems items (cs ++ gap) := by
  cases items with
  | nil => exact absurd rfl hempty
  | cons d ds =>
      obtain ⟨hfirst, hrest⟩ := Bool.and_eq_true_iff.mp h
      have hd := spells_layChars level d hfirst
      by_cases hlast : ds = []
      · subst hlast
        exact ⟨layChars level d, rfl, SpellsItems.last hd⟩
      · obtain ⟨cs, hcs, hspells⟩ := spells_layItems level ds hlast hrest
        cases ds with
        | nil => exact absurd rfl hlast
        | cons d' ds =>
            refine ⟨layChars level d ++ ',' :: (lineBreak level ++ cs), ?_, fun hgap => ?_⟩
            · simp [layItems, hcs]
            · simpa using SpellsItems.more hd blanks_nil (blanks_lineBreak level) (hspells hgap)
termination_by structural items
theorem spells_layMembers (level : Nat) (members : List (String × Document))
    (hempty : members ≠ []) (h : havePlain members = true) :
    ∃ cs, layMembers level members = lineBreak level ++ cs ∧
      ∀ {gap}, Blanks gap → SpellsMembers members (cs ++ gap) := by
  cases members with
  | nil => exact absurd rfl hempty
  | cons m ms =>
      obtain ⟨name, d⟩ := m
      obtain ⟨hfirst, hrest⟩ := Bool.and_eq_true_iff.mp h
      have hd := spells_layChars level d hfirst
      by_cases hlast : ms = []
      · subst hlast
        refine ⟨quote name ++ ':' :: ' ' :: layChars level d, ?_, fun hgap => ?_⟩
        · simp [layMembers]
        · simpa using SpellsMembers.last blanks_nil blanks_singleton hd hgap
      · obtain ⟨cs, hcs, hspells⟩ := spells_layMembers level ms hlast hrest
        cases ms with
        | nil => exact absurd rfl hlast
        | cons m' ms =>
            refine ⟨quote name ++ ':' :: ' ' :: (layChars level d ++ ',' ::
              (lineBreak level ++ cs)), ?_, fun hgap => ?_⟩
            · simp [layMembers, hcs]
            · simpa using SpellsMembers.more blanks_nil blanks_singleton hd blanks_nil
                (blanks_lineBreak level) (hspells hgap)
termination_by structural members
end

/-! ## What stands around a text -/

/-- The characters that the text of a document may begin with. -/
def starters : List Char :=
  ['n', 't', 'f', '"', '[', '{', '-', '0', '1', '2', '3', '4', '5', '6', '7', '8', '9']

/-- The characters that may stand behind the text of a document. -/
def enders : List Char := [' ', '\n', '\r', '\t', ',', ']', '}']

/-- Nothing stands here, or a character that does not belong to a number. -/
def Ends (rest : List Char) : Prop := ∀ c, rest.head? = some c → c ∈ enders

theorem mem_enders_of_isBlank {c : Char} (h : Json.isBlank c = true) : c ∈ enders := by
  simp only [Json.isBlank, Bool.or_eq_true, beq_iff_eq] at h
  rcases h with ((rfl | rfl) | rfl) | rfl <;> decide

theorem ends_nil : Ends [] := fun _ hc => nomatch hc

theorem ends_cons {c : Char} (h : c ∈ enders) (rest : List Char) : Ends (c :: rest) := by
  intro d hd
  cases hd
  exact h

theorem ends_blanks {gap rest : List Char} (hgap : Blanks gap) (hrest : Ends rest) :
    Ends (gap ++ rest) := by
  cases gap with
  | nil => exact hrest
  | cons c cs => exact ends_cons (mem_enders_of_isBlank (hgap c List.mem_cons_self)) _

theorem mem_starters_of_isDigit {c : Char} (h : c.isDigit = true) : c ∈ starters := by
  have hrange : 48 ≤ c.toNat ∧ c.toNat ≤ 57 := by
    simpa [Char.isDigit, UInt32.le_iff_toNat_le] using h
  obtain ⟨hleast, hgreatest⟩ := hrange
  have hc : c = Char.ofNat c.toNat := (Char.ofNat_toNat c).symm
  rw [hc]
  interval_cases c.toNat <;> decide

/-! ## Digits -/

/-- No number but zero begins with a zero. -/
theorem head?_toDigits_ne_zero {n : Nat} (h : 0 < n) : (Nat.toDigits 10 n).head? ≠ some '0' := by
  induction n using Nat.strongRecOn with
  | ind n ih =>
      by_cases hlt : n < 10
      · rw [Nat.toDigits_of_lt_base hlt]
        interval_cases n <;> decide
      · have hsplit := Nat.toDigits_append_toDigits (b := 10) (n := n / 10) (d := n % 10)
          (by omega) (by omega) (by omega)
        rw [Nat.div_add_mod] at hsplit
        have hhead := ih (n / 10) (by omega) (by omega)
        rw [← hsplit]
        cases hdigits : Nat.toDigits 10 (n / 10) with
        | nil => exact absurd hdigits Nat.toDigits_ne_nil
        | cons c cs => rwa [hdigits] at hhead

/-- So a number is spelled without leading zeros. -/
theorem not_leadingZero (n : Nat) :
    ¬ ((Nat.toDigits 10 n).head? = some '0' ∧ Nat.toDigits 10 n ≠ ['0']) := by
  intro h
  obtain ⟨hhead, hne⟩ := h
  rcases Nat.eq_zero_or_pos n with hzero | hpos
  · rw [hzero] at hne
    exact hne rfl
  · exact head?_toDigits_ne_zero hpos hhead

theorem isDigit_of_mem {n : Nat} {c : Char} (h : c ∈ Nat.toDigits 10 n) : c.isDigit = true :=
  Nat.isDigit_of_mem_toDigits (by decide) (by decide) h

theorem not_isDigit_of_ends {rest : List Char} (h : Ends rest) :
    ∀ c, rest.head? = some c → c.isDigit = false := by
  have hall : (enders.all fun c => !c.isDigit) = true := by decide
  intro c hc
  simpa using List.all_eq_true.mp hall c (h c hc)

theorem takeWhile_digits (n : Nat) {rest : List Char} (h : Ends rest) :
    (Nat.toDigits 10 n ++ rest).takeWhile Char.isDigit = Nat.toDigits 10 n := by
  rw [List.takeWhile_append_of_pos fun c hc => isDigit_of_mem hc]
  cases rest with
  | nil => simp
  | cons c cs => simp [not_isDigit_of_ends h c rfl]

theorem dropWhile_digits (n : Nat) {rest : List Char} (h : Ends rest) :
    (Nat.toDigits 10 n ++ rest).dropWhile Char.isDigit = rest := by
  rw [List.dropWhile_append_of_pos fun c hc => isDigit_of_mem hc]
  cases rest with
  | nil => rfl
  | cons c cs => simp [not_isDigit_of_ends h c rfl]

theorem digitsValue_toDigits (n : Nat) : Text.digitsValue (Nat.toDigits 10 n) = n :=
  Nat.ofDigitChars_toDigits (by decide) (by decide)

/-- Behind the first digit of a number stands another digit, or what ends a number. -/
theorem toDigits_append_ne {n : Nat} {rest cs : List Char} {c x : Char} (h : Ends rest)
    (hender : x ∉ enders) (hdigit : x.isDigit = false) :
    Nat.toDigits 10 n ++ rest ≠ c :: x :: cs := by
  intro heq
  cases hdigits : Nat.toDigits 10 n with
  | nil => exact Nat.toDigits_ne_nil hdigits
  | cons d ds =>
      rw [hdigits] at heq
      cases ds with
      | nil => exact hender (h x (by simp_all))
      | cons d' ds =>
          have hx : d' = x := by simp_all
          have hmem : d' ∈ Nat.toDigits 10 n := by simp [hdigits]
          rw [← hx, isDigit_of_mem hmem] at hdigit
          cases hdigit

/-! ## First characters -/

theorem ne_of_isDigit {c d : Char} (hc : c.isDigit = true) (hd : d.isDigit = false) : c ≠ d := by
  intro heq
  rw [heq, hd] at hc
  cases hc

theorem ne_closing_of_mem_starters {c : Char} (h : c ∈ starters) : c ≠ ']' := by
  intro heq
  rw [heq] at h
  exact absurd h (by decide)

theorem head_toDigits (n : Nat) : ∃ c cs, Nat.toDigits 10 n = c :: cs ∧ c.isDigit = true := by
  cases hdigits : Nat.toDigits 10 n with
  | nil => exact absurd hdigits Nat.toDigits_ne_nil
  | cons c cs => exact ⟨c, cs, rfl, isDigit_of_mem (hdigits ▸ List.mem_cons_self)⟩

theorem head_writeInteger (n : Int) :
    ∃ c cs, writeInteger n = c :: cs ∧ (c = '-' ∨ c.isDigit = true) := by
  unfold writeInteger
  split
  · exact ⟨'-', _, rfl, .inl rfl⟩
  · obtain ⟨c, cs, hdigits, hc⟩ := head_toDigits n.natAbs
    exact ⟨c, cs, hdigits, .inr hc⟩

theorem Spells.head {d : Document} {cs : List Char} (h : Spells d cs) :
    ∃ c rest, cs = c :: rest ∧ c ∈ starters := by
  cases h with
  | integer a =>
      obtain ⟨c, rest, hcs, hc⟩ := head_writeInteger a.val
      refine ⟨c, rest, hcs, ?_⟩
      rcases hc with rfl | hc
      · decide
      · exact mem_starters_of_isDigit hc
  | text s => exact ⟨'"', _, rfl, by decide⟩
  | _ => exact ⟨_, _, rfl, by decide⟩

theorem SpellsItems.head {items : List Document} {cs : List Char} (h : SpellsItems items cs) :
    ∃ c rest, cs = c :: rest ∧ c ∈ starters := by
  cases h with
  | last hd =>
      obtain ⟨c, rest, rfl, hc⟩ := hd.head
      exact ⟨c, _, rfl, hc⟩
  | more hd =>
      obtain ⟨c, rest, rfl, hc⟩ := hd.head
      exact ⟨c, _, rfl, hc⟩

theorem SpellsMembers.head {members : List (String × Document)} {cs : List Char}
    (h : SpellsMembers members cs) : ∃ rest, cs = '"' :: rest := by
  cases h with
  | last => exact ⟨_, rfl⟩
  | more => exact ⟨_, rfl⟩

end Allotment.Document
