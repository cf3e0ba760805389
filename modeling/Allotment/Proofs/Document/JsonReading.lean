import Allotment.Proofs.Document.Spelling

/-!
# Reading plain texts as JSON

The reader of JSON takes every plain text of a document for that document, whatever blanks it has
(`ofJson?_of_spells`). So a document is read back from either of its written forms.
-/

namespace Allotment.Document

namespace Json

theorem skipBlanks_gap {gap cs : List Char} (hgap : Blanks gap)
    (hcs : ∀ c, cs.head? = some c → isBlank c = false) : skipBlanks (gap ++ cs) = cs := by
  rw [skipBlanks, List.dropWhile_append_of_pos hgap]
  cases cs with
  | nil => rfl
  | cons c cs => simp [hcs c rfl]

theorem isBlank_of_mem_starters {c : Char} (h : c ∈ starters) : isBlank c = false := by
  have hall : (starters.all fun c => !isBlank c) = true := by decide
  simpa using List.all_eq_true.mp hall c h

theorem skipBlanks_cons {gap : List Char} {c : Char} (hgap : Blanks gap) (hc : isBlank c = false)
    (rest : List Char) : skipBlanks (gap ++ c :: rest) = c :: rest := by
  refine skipBlanks_gap hgap fun d hd => ?_
  cases hd
  exact hc

/-! ## Texts -/

theorem hexNumber?_control {n : Nat} (h : n < 32) :
    Text.hexNumber? ['0', '0', Nat.digitChar (n / 16), Nat.digitChar (n % 16)] = some n := by
  interval_cases n <;> decide

theorem takeCodes_escape (c : Char) (cs : List Char) :
    takeCodes (escape c ++ cs) = prepend c.toNat (takeCodes cs) := by
  obtain ⟨letter, hletter, hescape⟩ | ⟨hcontrol, hescape⟩ | ⟨hletter, hvisible, hescape⟩ :=
    escape_cases c
  · rw [hescape]
    unfold escapeLetter? at hletter
    split at hletter <;> cases hletter <;> rfl
  · rw [hescape]
    simp only [List.cons_append, List.nil_append]
    rw [takeCodes, hexNumber?_control hcontrol]
  · have hquote : c ≠ '"' := ne_of_escapeLetter? hletter rfl
    have hbackslash : c ≠ '\\' := ne_of_escapeLetter? hletter rfl
    -- A character that stands for itself is none that the reader treats on its own.
    rw [hescape, List.singleton_append, takeCodes.eq_def]
    split <;> simp_all

theorem takeCodes_quote (cs rest : List Char) :
    takeCodes (cs.flatMap escape ++ '"' :: rest) = some (cs.map Char.toNat, rest) := by
  induction cs with
  | nil => rfl
  | cons c cs ih =>
      rw [List.flatMap_cons, List.append_assoc, takeCodes_escape, ih]
      rfl

/-- A quoted text is read up to its closing mark. -/
theorem takeText_quote (s : String) (rest : List Char) :
    takeText (s.toList.flatMap escape ++ '"' :: rest) = some (some s.toList, rest) := by
  rw [takeText, takeCodes_quote, Option.map_some, Text.charsOfCodes?_map_toNat]

theorem quote_append (s : String) (rest : List Char) :
    quote s ++ rest = '"' :: (s.toList.flatMap escape ++ '"' :: rest) := by
  simp [quote]

theorem takeName_quote {gap behind : List Char} (hgap : Blanks gap) (hbehind : Blanks behind)
    (name : String) (rest : List Char) :
    takeName (gap ++ (quote name ++ (behind ++ ':' :: rest))) =
      some (some name.toList, rest) := by
  have hcolon : skipBlanks (behind ++ ':' :: rest) = ':' :: rest :=
    skipBlanks_cons hbehind (by decide) rest
  rw [takeName, quote_append, skipBlanks_cons hgap (by decide)]
  simp [takeText_quote, hcolon]

/-! ## Whole numbers -/

theorem takeDigits_toDigits (n : Nat) {rest : List Char} (h : Ends rest) :
    takeDigits (Nat.toDigits 10 n ++ rest) = some (Nat.toDigits 10 n, rest) := by
  rw [takeDigits, takeWhile_digits n h, dropWhile_digits n h, if_neg Nat.toDigits_ne_nil]

theorem takeFraction_of_ends {rest : List Char} (h : Ends rest) :
    takeFraction rest = some ([], rest) := by
  unfold takeFraction
  split
  · exact absurd (h '.' rfl) (by decide)
  · rfl

theorem takeExponent_of_ends {rest : List Char} (h : Ends rest) :
    takeExponent rest = some (none, rest) := by
  unfold takeExponent
  split
  · exact absurd (h 'e' rfl) (by decide)
  · exact absurd (h 'E' rfl) (by decide)
  · rfl

theorem takeUnsigned_toDigits (negative : Bool) (n : Nat) {rest : List Char} (h : Ends rest) :
    takeUnsigned negative (Nat.toDigits 10 n ++ rest) =
      some (wholeOf negative (Nat.toDigits 10 n), rest) := by
  simp [takeUnsigned, takeDigits_toDigits n h, takeFraction_of_ends h, takeExponent_of_ends h,
    not_leadingZero n]

theorem takeNumber_of_ne {c : Char} (h : c ≠ '-') (cs : List Char) :
    takeNumber (c :: cs) = takeUnsigned false (c :: cs) := by
  unfold takeNumber
  split
  · rename_i heq
    exact absurd (List.cons.inj heq).1 h
  · rfl

theorem takeNumber_writeInteger (a : Amount) {rest : List Char} (h : Ends rest) :
    takeNumber (writeInteger a.val ++ rest) = some (integer a.val, rest) := by
  have hleast := a.least_le
  have hgreatest := a.le_greatest
  unfold writeInteger
  split
  · rename_i hnegative
    have hout : ¬ (a.val.natAbs = 0 ∨ 9223372036854775808 < a.val.natAbs) := by omega
    have hvalue : -(a.val.natAbs : Int) = a.val := by omega
    rw [List.cons_append, takeNumber, takeUnsigned_toDigits true _ h, wholeOf,
      digitsValue_toDigits]
    simp only [if_true, hout, if_false, hvalue]
  · rename_i hnonneg
    have hin : a.val.natAbs < UInt64.size := by
      have hsize : UInt64.size = 18446744073709551616 := rfl
      omega
    have hvalue : (a.val.natAbs : Int) = a.val := by omega
    have hread := takeUnsigned_toDigits false a.val.natAbs h
    rw [wholeOf, digitsValue_toDigits] at hread
    simp only [Bool.false_eq_true, if_false, hin, if_true, hvalue] at hread
    obtain ⟨c, cs, hdigits, hc⟩ := head_toDigits a.val.natAbs
    rw [hdigits, List.cons_append] at hread ⊢
    rw [takeNumber_of_ne (ne_of_isDigit hc rfl), hread]

/-! ## Values -/

/-- What begins like a number is read as one. -/
theorem takeValue_number {steps : Nat} {gap rest : List Char} {c : Char} (hgap : Blanks gap)
    (hc : c = '-' ∨ c.isDigit = true) :
    takeValue (steps + 1) (gap ++ c :: rest) = takeNumber (c :: rest) := by
  have hstarter : c ∈ starters := by
    rcases hc with rfl | hc
    · decide
    · exact mem_starters_of_isDigit hc
  have hne : c ≠ '{' ∧ c ≠ '[' ∧ c ≠ '"' ∧ c ≠ 't' ∧ c ≠ 'f' ∧ c ≠ 'n' := by
    refine ⟨?_, ?_, ?_, ?_, ?_, ?_⟩ <;> rintro rfl <;> revert hc <;> decide
  rw [takeValue, skipBlanks_cons hgap (isBlank_of_mem_starters hstarter)]
  split <;> simp_all

/-- So many steps suffice for texts of documents: with blanks in front, and anything behind that
does not belong to a number. Each character takes at most two steps. -/
def ReadsValues (steps : Nat) : Prop :=
  ∀ {d : Document} {cs gap rest : List Char}, Spells d cs → 2 * cs.length ≤ steps → Blanks gap →
    Ends rest → takeValue steps (gap ++ (cs ++ rest)) = some (d, rest)

/-- They suffice for the items of a list, up to its end. -/
def ReadsItems (steps : Nat) : Prop :=
  ∀ {items : List Document} {cs gap : List Char}, SpellsItems items cs →
    2 * cs.length + 1 ≤ steps → Blanks gap → ∀ rest,
    takeItems steps (gap ++ (cs ++ ']' :: rest)) = some (items, rest)

/-- They suffice for the members of a record, up to its end. -/
def ReadsMembers (steps : Nat) : Prop :=
  ∀ {members : List (String × Document)} {cs gap : List Char}, SpellsMembers members cs →
    2 * cs.length + 1 ≤ steps → Blanks gap → ∀ rest,
    takeMembers steps (gap ++ (cs ++ '}' :: rest)) = some (some members, rest)

variable {steps : Nat}

theorem readsValues_zero : ReadsValues 0 := by
  intro d cs gap rest h hsteps
  obtain ⟨c, tail, hcs, -⟩ := h.head
  simp [hcs] at hsteps

theorem readsValues_succ (hitems : ReadsItems steps) (hmembers : ReadsMembers steps) :
    ReadsValues (steps + 1) := by
  intro d cs gap rest h hsteps hgap hrest
  cases h with
  | null => simp [takeValue, skipBlanks_cons hgap (by decide : isBlank 'n' = false)]
  | yes => simp [takeValue, skipBlanks_cons hgap (by decide : isBlank 't' = false)]
  | no => simp [takeValue, skipBlanks_cons hgap (by decide : isBlank 'f' = false)]
  | integer a =>
      obtain ⟨c, cs, hwritten, hc⟩ := head_writeInteger a.val
      rw [hwritten, List.cons_append, takeValue_number hgap hc, ← List.cons_append, ← hwritten]
      exact takeNumber_writeInteger a hrest
  | text s =>
      rw [quote_append, takeValue, skipBlanks_cons hgap (by decide)]
      simp [takeText_quote]
  | emptyList hinner =>
      rw [List.cons_append, takeValue, skipBlanks_cons hgap (by decide)]
      simp [skipBlanks_cons hinner (by decide : isBlank ']' = false)]
  | list hinner hspells =>
      obtain ⟨c, tail, rfl, hc⟩ := hspells.head
      have hread := hitems hspells (by simp at hsteps ⊢; omega) blanks_nil rest
      rw [List.cons_append, takeValue, skipBlanks_cons hgap (by decide)]
      simp only [List.append_assoc, List.cons_append, List.nil_append] at hread ⊢
      rw [skipBlanks_cons hinner (isBlank_of_mem_starters hc)]
      simp [ne_closing_of_mem_starters hc, hread]
  | emptyRecord hinner =>
      rw [List.cons_append, takeValue, skipBlanks_cons hgap (by decide)]
      simp [skipBlanks_cons hinner (by decide : isBlank '}' = false)]
  | record hinner hspells =>
      obtain ⟨tail, rfl⟩ := hspells.head
      have hread := hmembers hspells (by simp at hsteps ⊢; omega) blanks_nil rest
      rw [List.cons_append, takeValue, skipBlanks_cons hgap (by decide)]
      simp only [List.append_assoc, List.cons_append, List.nil_append] at hread ⊢
      rw [skipBlanks_cons hinner (by decide)]
      simp [hread, ofMembers]

theorem readsItems_succ (hvalues : ReadsValues steps) (hitems : ReadsItems steps) :
    ReadsItems (steps + 1) := by
  intro items cs gap h hsteps hgap rest
  cases h with
  | @last d cs behind hd hbehind =>
      have hread := hvalues hd (by simp at hsteps; omega) hgap
        (ends_blanks hbehind (ends_cons (by decide : ']' ∈ enders) rest))
      rw [takeItems, List.append_assoc, hread]
      simp [skipBlanks_cons hbehind (by decide : isBlank ']' = false)]
  | @more d ds cs behind before following hd hbehind hbefore hds =>
      have hread := hvalues hd (by simp at hsteps; omega) hgap
        (ends_blanks hbehind (ends_cons (by decide : ',' ∈ enders)
          (before ++ (following ++ ']' :: rest))))
      have hfollowing := hitems hds (by simp at hsteps; omega) hbefore rest
      simp only [List.append_assoc, List.cons_append]
      rw [takeItems, hread]
      simp [skipBlanks_cons hbehind (by decide : isBlank ',' = false), hfollowing]

theorem readsMembers_succ (hvalues : ReadsValues steps) (hmembers : ReadsMembers steps) :
    ReadsMembers (steps + 1) := by
  intro members cs gap h hsteps hgap rest
  cases h with
  | @last name d cs behind before after hbehind hbefore hd hafter =>
      have hread := hvalues hd (by simp at hsteps; omega) hbefore
        (ends_blanks hafter (ends_cons (by decide : '}' ∈ enders) rest))
      simp only [List.append_assoc, List.cons_append]
      rw [takeMembers, takeName_quote hgap hbehind]
      simp [hread, skipBlanks_cons hafter (by decide : isBlank '}' = false), addMember]
  | @more name d ms cs behind before after next following hbehind hbefore hd hafter hnext hms =>
      have hread := hvalues hd (by simp at hsteps; omega) hbefore
        (ends_blanks hafter (ends_cons (by decide : ',' ∈ enders)
          (next ++ (following ++ '}' :: rest))))
      have hfollowing := hmembers hms (by simp at hsteps; omega) hnext rest
      simp only [List.append_assoc, List.cons_append]
      rw [takeMembers, takeName_quote hgap hbehind]
      simp [hread, skipBlanks_cons hafter (by decide : isBlank ',' = false), hfollowing,
        addMember]

/-- The steps that a text is given suffice, by induction on their number. -/
theorem reads (steps : Nat) : ReadsValues steps ∧ ReadsItems steps ∧ ReadsMembers steps := by
  induction steps with
  | zero =>
      refine ⟨readsValues_zero, ?_, ?_⟩
      · intro items cs gap _ hsteps
        omega
      · intro members cs gap _ hsteps
        omega
  | succ steps ih =>
      obtain ⟨hvalues, hitems, hmembers⟩ := ih
      exact ⟨readsValues_succ hitems hmembers, readsItems_succ hvalues hitems,
        readsMembers_succ hvalues hmembers⟩

end Json

/-- A plain text of a document, with blanks around it, is read as the document. -/
theorem ofJsonChars?_of_spells {d : Document} {before cs after : List Char}
    (hbefore : Blanks before) (h : Spells d cs) (hafter : Blanks after) :
    ofJsonChars? (before ++ (cs ++ after)) = some d := by
  have hends : Ends after := by
    rw [← List.append_nil after]
    exact ends_blanks hafter ends_nil
  have hblank : Json.skipBlanks after = [] := by
    rw [← List.append_nil after]
    exact Json.skipBlanks_gap hafter fun c hc => nomatch hc
  have hread := (Json.reads (2 * (before ++ (cs ++ after)).length + 2)).1 h
    (by simp only [List.length_append]; omega) hbefore hends
  rw [ofJsonChars?, hread]
  simp [hblank]

/-- What is written on one line is read back. -/
theorem ofJson?_write {d : Document} (h : d.isPlain = true) : ofJson? d.write = some d := by
  have hread := ofJsonChars?_of_spells blanks_nil (spells_writeChars d h) blanks_nil
  rw [ofJson?, write, String.toList_ofList]
  simpa using hread

/-- What is written over several lines is read back. -/
theorem ofJson?_lay {d : Document} (h : d.isPlain = true) : ofJson? d.lay = some d := by
  have hread := ofJsonChars?_of_spells blanks_nil (spells_layChars 0 d h) blanks_nil
  rw [ofJson?, lay, String.toList_ofList]
  simpa using hread

end Allotment.Document
