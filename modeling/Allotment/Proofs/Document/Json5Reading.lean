import Allotment.Document.Json5
import Allotment.Proofs.Document.JsonReading

/-!
# Reading plain texts as JSON5

A plain text of a document is a text of JSON5, too, unless one of the two separators of Unicode
stands in it, which end a line here. It is read as the document put in order
(`ofJson5Chars?_of_spells`).
-/

namespace Allotment.Document

/-- Neither of the two characters that end a line in JSON5 alone. -/
def Unseparated (cs : List Char) : Prop := ∀ c ∈ cs, c ≠ '\u2028' ∧ c ≠ '\u2029'

instance (cs : List Char) : Decidable (Unseparated cs) :=
  List.decidableBAll (fun c => c ≠ '\u2028' ∧ c ≠ '\u2029') cs

/-- A separator is not escaped, so it stands in a quoted text if it stands in the text. -/
theorem unseparated_of_quote {s : String} (h : Unseparated (quote s)) :
    Unseparated s.toList := by
  intro c hc
  have hescape (hc' : c ∈ escape c) : c ≠ '\u2028' ∧ c ≠ '\u2029' := by
    refine h c (List.mem_append_left _ (List.mem_cons_of_mem _ ?_))
    exact List.mem_flatMap.mpr ⟨c, hc, hc'⟩
  constructor
  · intro heq
    exact (hescape (by rw [heq]; decide)).1 heq
  · intro heq
    exact (hescape (by rw [heq]; decide)).2 heq

namespace Json5

/-! ## Gaps -/

theorem isBlank_of_isBlank {c : Char} (h : Json.isBlank c = true) : isBlank c = true ∧ c ≠ '/' := by
  simp only [Json.isBlank, Bool.or_eq_true, beq_iff_eq] at h
  rcases h with ((rfl | rfl) | rfl) | rfl <;> decide

theorem skipGap_of_ne {c : Char} (hc : c ≠ '/') (cs : List Char) :
    skipGap .open (c :: cs) = if isBlank c then skipGap .open cs else some (c :: cs) := by
  rw [skipGap.eq_def]
  split <;> simp_all

theorem skip_gap {gap cs : List Char} (hgap : Blanks gap) : skip (gap ++ cs) = skip cs := by
  induction gap with
  | nil => rfl
  | cons c gap ih =>
      obtain ⟨hblank, hslash⟩ := isBlank_of_isBlank (hgap c List.mem_cons_self)
      have hrest := ih fun d hd => hgap d (List.mem_cons_of_mem _ hd)
      rwa [List.cons_append, skip, skipGap_of_ne hslash, if_pos hblank]

theorem skip_cons {gap : List Char} {c : Char} (hgap : Blanks gap)
    (hc : c ≠ '/' ∧ isBlank c = false) (rest : List Char) :
    skip (gap ++ c :: rest) = some (c :: rest) := by
  rw [skip_gap hgap, skip, skipGap_of_ne hc.1, hc.2]
  rfl

theorem solid_of_mem_starters {c : Char} (h : c ∈ starters) : c ≠ '/' ∧ isBlank c = false := by
  have hall : (starters.all fun c => c != '/' && !isBlank c) = true := by decide
  simpa using List.all_eq_true.mp hall c h

/-! ## Texts -/

theorem dropJoints_of_ne {c : Char} (hc : c ≠ '\\') (cs : List Char) :
    dropJoints (c :: cs) = c :: cs := by
  rw [dropJoints.eq_def]
  split <;> simp_all

theorem dropJoints_escaped {c : Char} (hc : isLineEnd c = false) (cs : List Char) :
    dropJoints ('\\' :: c :: cs) = '\\' :: c :: cs := by
  have hreturn : c ≠ '\r' := by
    intro heq
    rw [heq] at hc
    cases hc
  rw [dropJoints.eq_def]
  split <;> simp_all

/-- What is written behind an escaped character is not taken for a joint of lines. -/
theorem dropJoints_quote (cs rest : List Char) :
    dropJoints (cs.flatMap escape ++ '"' :: rest) = cs.flatMap escape ++ '"' :: rest := by
  cases cs with
  | nil => exact dropJoints_of_ne (by decide) rest
  | cons c cs =>
      rw [List.flatMap_cons, List.append_assoc]
      obtain ⟨letter, hletter, hescape⟩ | ⟨-, hescape⟩ | ⟨hletter, -, hescape⟩ := escape_cases c
      · rw [hescape]
        refine dropJoints_escaped ?_ _
        unfold escapeLetter? at hletter
        split at hletter <;> cases hletter <;> rfl
      · rw [hescape]
        exact dropJoints_escaped rfl _
      · rw [hescape]
        exact dropJoints_of_ne (ne_of_escapeLetter? hletter rfl) _

theorem takeCodePoint_toNat (c : Char) (cs : List Char) :
    takeCodePoint c.toNat cs = some (c, cs) := by
  obtain ⟨hhigh, hlow⟩ := Text.not_isHalf_toNat c
  simp [takeCodePoint.eq_def, hhigh, hlow, Char.ofNat_toNat]

/-- An escaped character is read in one step, where no joint of lines stands behind it. -/
theorem takeText_escape {c : Char} (hc : c ≠ '\u2028' ∧ c ≠ '\u2029') (steps : Nat)
    {cs : List Char} (hcs : dropJoints cs = cs) :
    takeText '"' (steps + 1) (escape c ++ cs) = prepend c (takeText '"' steps cs) := by
  obtain ⟨letter, hletter, hescape⟩ | ⟨hcontrol, hescape⟩ | ⟨hletter, -, hescape⟩ :=
    escape_cases c
  · rw [hescape]
    unfold escapeLetter? at hletter
    split at hletter <;> cases hletter <;> rfl
  · rw [hescape]
    simp only [List.cons_append, List.nil_append]
    rw [takeText, hcs]
    simp [Json.hexNumber?_control hcontrol, takeCodePoint_toNat]
  · have hquote : c ≠ '"' := ne_of_escapeLetter? hletter rfl
    have hbackslash : c ≠ '\\' := ne_of_escapeLetter? hletter rfl
    -- The other two line ends are escaped by a letter.
    have hline : isLineEnd c = false := by
      have hfeed : c ≠ '\n' := ne_of_escapeLetter? hletter rfl
      have hreturn : c ≠ '\r' := ne_of_escapeLetter? hletter rfl
      simp [isLineEnd, hfeed, hreturn, hc.1, hc.2]
    rw [hescape, List.singleton_append, takeText.eq_def]
    split <;> simp_all

/-- The inside of a text is read up to the closing mark, with a step for each character. -/
theorem takeText_escaped {cs : List Char} (h : Unseparated cs) (rest : List Char) {steps : Nat}
    (hsteps : cs.length < steps) :
    takeText '"' steps (cs.flatMap escape ++ '"' :: rest) = some (cs, rest) := by
  induction cs generalizing steps with
  | nil =>
      obtain ⟨steps, rfl⟩ := Nat.exists_eq_add_of_lt hsteps
      simp [takeText]
  | cons c cs ih =>
      cases steps with
      | zero => cases hsteps
      | succ steps =>
          have hrest := ih (fun d hd => h d (List.mem_cons_of_mem c hd)) (by simpa using hsteps)
          rw [List.flatMap_cons, List.append_assoc,
            takeText_escape (h c List.mem_cons_self) steps (dropJoints_quote cs rest), hrest]
          rfl

/-- So a quoted text is read where the steps are as many as the characters behind its first
mark. -/
theorem takeText_quote {s : String} (h : Unseparated (quote s)) (rest : List Char) {steps : Nat}
    (hsteps : (s.toList.flatMap escape ++ '"' :: rest).length ≤ steps) :
    takeText '"' steps (s.toList.flatMap escape ++ '"' :: rest) = some (s.toList, rest) := by
  have hlength := length_le_flatMap_escape s.toList
  rw [List.length_append, List.length_cons] at hsteps
  exact takeText_escaped (unseparated_of_quote h) rest (by omega)

theorem takeName_quote {name : String} (h : Unseparated (quote name)) (rest : List Char) :
    takeName (quote name ++ rest) = some (name, rest) := by
  have hread := takeText_quote h rest (Nat.le_succ _)
  rw [Json.quote_append]
  change (takeText '"' (Nat.succ _) (name.toList.flatMap escape ++ '"' :: rest)).map _ = _
  rw [hread, Option.map_some, String.ofList_toList]

theorem takeColon_cons {behind before : List Char} {c : Char} (hbehind : Blanks behind)
    (hbefore : Blanks before) (hc : c ≠ '/' ∧ isBlank c = false) (rest : List Char) :
    takeColon (behind ++ ':' :: (before ++ c :: rest)) = some (c :: rest) := by
  rw [takeColon, skip_cons hbehind (by decide)]
  exact skip_cons hbefore hc rest

/-! ## Whole numbers -/

theorem takeDigits_toDigits (n : Nat) {rest : List Char} (h : Ends rest) :
    takeDigits (Nat.toDigits 10 n ++ rest) = (Nat.toDigits 10 n, rest) := by
  rw [takeDigits, takeWhile_digits n h, dropWhile_digits n h]

theorem takeExponent_of_ends {rest : List Char} (h : Ends rest) :
    takeExponent rest = (none, rest) := by
  have hlower : rest.head? ≠ some 'e' := fun he => absurd (h 'e' he) (by decide)
  have hupper : rest.head? ≠ some 'E' := fun he => absurd (h 'E' he) (by decide)
  rw [takeExponent.eq_def]
  split <;> simp_all

/-- A number that can be kept whole. -/
theorem takeDecimal_toDigits {sign : Sign} {n : Nat} {d : Document} {rest : List Char}
    (h : Ends rest) (hwhole : wholeOf? sign (Nat.toDigits 10 n) = some d) :
    takeDecimal sign (Nat.toDigits 10 n ++ rest) = some (d, rest) := by
  have hpoint : rest.head? ≠ some '.' := fun he => absurd (h '.' he) (by decide)
  rw [takeDecimal, takeDigits_toDigits n h]
  simp only [not_leadingZero n, if_false]
  split
  · simp_all
  · rw [if_neg Nat.toDigits_ne_nil, takeExponent_of_ends h]
    simp [hwhole]

theorem takeUnsigned_toDigits {sign : Sign} {n : Nat} {d : Document} {rest : List Char}
    (h : Ends rest) (hwhole : wholeOf? sign (Nat.toDigits 10 n) = some d) :
    takeUnsigned sign (Nat.toDigits 10 n ++ rest) = some (d, rest) := by
  have hread := takeDecimal_toDigits h hwhole
  have hfirst : ∀ c, (Nat.toDigits 10 n ++ rest).head? = some c → c.isDigit = true := by
    obtain ⟨c, cs, hdigits, hc⟩ := head_toDigits n
    rw [hdigits]
    intro d hd
    cases hd
    exact hc
  -- A digit begins neither of the two names, and no letter follows it as in hexadecimal digits.
  rw [takeUnsigned.eq_def]
  split
  · rename_i heq
    exact absurd (hfirst 'I' (by rw [heq]; rfl)) (by decide)
  · rename_i heq
    exact absurd (hfirst 'N' (by rw [heq]; rfl)) (by decide)
  · rename_i heq
    exact absurd heq (toDigits_append_ne h (by decide) (by decide))
  · rename_i heq
    exact absurd heq (toDigits_append_ne h (by decide) (by decide))
  · exact hread

theorem takeNumber_writeInteger (a : Amount) {rest : List Char} (h : Ends rest) :
    takeNumber (writeInteger a.val ++ rest) = some (integer a.val, rest) := by
  have hleast := a.least_le
  have hgreatest := a.le_greatest
  unfold writeInteger
  split
  · rename_i hnegative
    have hwhole : wholeOf? .minus (Nat.toDigits 10 a.val.natAbs) = some (integer a.val) := by
      have hvalue : -(a.val.natAbs : Int) = a.val := by omega
      rw [wholeOf?, digitsValue_toDigits]
      simp only [if_true, hvalue]
      rw [if_pos (by omega)]
    rw [List.cons_append, takeNumber, takeUnsigned_toDigits h hwhole]
  · rename_i hnonneg
    have hwhole : wholeOf? .none (Nat.toDigits 10 a.val.natAbs) = some (integer a.val) := by
      have hvalue : (a.val.natAbs : Int) = a.val := by omega
      rw [wholeOf?, digitsValue_toDigits]
      simp only [reduceCtorEq, if_false, hvalue]
      rw [if_pos (by omega)]
    have hread := takeUnsigned_toDigits h hwhole
    obtain ⟨c, cs, hdigits, hc⟩ := head_toDigits a.val.natAbs
    have hplus : c ≠ '+' := ne_of_isDigit hc rfl
    have hminus : c ≠ '-' := ne_of_isDigit hc rfl
    rw [hdigits, List.cons_append] at hread ⊢
    rw [takeNumber.eq_def]
    split <;> simp_all

/-! ## Values -/

/-- What begins like a number is read as one. -/
theorem takeValue_number {steps : Nat} {rest : List Char} {c : Char}
    (hc : c = '-' ∨ c.isDigit = true) :
    takeValue (steps + 1) (c :: rest) = takeNumber (c :: rest) := by
  have hne : c ≠ '{' ∧ c ≠ '[' ∧ c ≠ '"' ∧ c ≠ '\'' ∧ c ≠ 't' ∧ c ≠ 'f' ∧ c ≠ 'n' := by
    refine ⟨?_, ?_, ?_, ?_, ?_, ?_, ?_⟩ <;> rintro rfl <;> revert hc <;> decide
  rw [takeValue.eq_def]
  split
  · simp_all
  · simp_all
  · simp_all
  · rw [takeLeaf.eq_def]
    split <;> simp_all

theorem takeValue_quote {s : String} (h : Unseparated (quote s)) (steps : Nat)
    (rest : List Char) : takeValue (steps + 1) (quote s ++ rest) = some (text s, rest) := by
  have hread := takeText_quote h rest (Nat.le_succ _)
  rw [Json.quote_append]
  change (takeText '"' _ (s.toList.flatMap escape ++ '"' :: rest)).map _ = _
  rw [hread, Option.map_some, String.ofList_toList]

/-- So many steps suffice for texts of documents, with anything behind that does not belong to a
number. Each character takes at most two steps. -/
def ReadsValues (steps : Nat) : Prop :=
  ∀ {d : Document} {cs rest : List Char}, Spells d cs → Unseparated cs → 2 * cs.length ≤ steps →
    Ends rest → takeValue steps (cs ++ rest) = some (d, rest)

/-- They suffice for the items of a list, up to its end. -/
def ReadsItems (steps : Nat) : Prop :=
  ∀ {items : List Document} {cs : List Char}, SpellsItems items cs → Unseparated cs →
    2 * cs.length + 1 ≤ steps → ∀ rest, takeItems steps (cs ++ ']' :: rest) = some (items, rest)

/-- They suffice for the members of a record, up to its end. -/
def ReadsMembers (steps : Nat) : Prop :=
  ∀ {members : List (String × Document)} {cs : List Char}, SpellsMembers members cs →
    Unseparated cs → 2 * cs.length + 1 ≤ steps → ∀ rest,
    takeMembers steps (cs ++ '}' :: rest) = some (members, rest)

variable {steps : Nat}

theorem readsValues_zero : ReadsValues 0 := by
  intro d cs rest h _ hsteps
  obtain ⟨c, tail, hcs, -⟩ := h.head
  simp [hcs] at hsteps

theorem readsValues_succ (hitems : ReadsItems steps) (hmembers : ReadsMembers steps) :
    ReadsValues (steps + 1) := by
  intro d cs rest h hsound hsteps hrest
  cases h with
  | null => rfl
  | yes => rfl
  | no => rfl
  | integer a =>
      obtain ⟨c, cs, hwritten, hc⟩ := head_writeInteger a.val
      rw [hwritten, List.cons_append, takeValue_number hc, ← List.cons_append, ← hwritten]
      exact takeNumber_writeInteger a hrest
  | text s => exact takeValue_quote hsound steps rest
  | emptyList hinner =>
      rw [List.cons_append, List.append_assoc, takeValue]
      simp [skip_cons hinner (by decide : ']' ≠ '/' ∧ isBlank ']' = false)]
  | @list gap cs items hinner hspells =>
      have hinside : Unseparated cs := fun c hc => hsound c (by simp [hc])
      have hread := hitems hspells hinside (by simp at hsteps; omega) rest
      obtain ⟨c, tail, rfl, hc⟩ := hspells.head
      simp only [List.append_assoc, List.cons_append, List.nil_append] at hread ⊢
      rw [takeValue, skip_cons hinner (solid_of_mem_starters hc)]
      simp [ne_closing_of_mem_starters hc, hread]
  | emptyRecord hinner =>
      rw [List.cons_append, List.append_assoc, takeValue]
      simp [skip_cons hinner (by decide : '}' ≠ '/' ∧ isBlank '}' = false)]
  | @record gap cs members hinner hspells =>
      have hinside : Unseparated cs := fun c hc => hsound c (by simp [hc])
      have hread := hmembers hspells hinside (by simp at hsteps; omega) rest
      obtain ⟨tail, rfl⟩ := hspells.head
      simp only [List.append_assoc, List.cons_append, List.nil_append] at hread ⊢
      rw [takeValue, skip_cons hinner (by decide)]
      simp [hread]

theorem readsItems_succ (hvalues : ReadsValues steps) (hitems : ReadsItems steps) :
    ReadsItems (steps + 1) := by
  intro items cs h hsound hsteps rest
  cases h with
  | @last d cs behind hd hbehind =>
      have hfirst : Unseparated cs := fun c hc => hsound c (by simp [hc])
      have hread := hvalues hd hfirst (by simp at hsteps; omega)
        (ends_blanks hbehind (ends_cons (by decide : ']' ∈ enders) rest))
      rw [takeItems, List.append_assoc, hread]
      simp [skip_cons hbehind (by decide : ']' ≠ '/' ∧ isBlank ']' = false)]
  | @more d ds cs behind before following hd hbehind hbefore hds =>
      have hfirst : Unseparated cs := fun c hc => hsound c (by simp [hc])
      have hlater : Unseparated following := fun c hc => hsound c (by simp [hc])
      have hread := hvalues hd hfirst (by simp at hsteps; omega)
        (ends_blanks hbehind (ends_cons (by decide : ',' ∈ enders)
          (before ++ (following ++ ']' :: rest))))
      have hfollowing := hitems hds hlater (by simp at hsteps; omega) rest
      obtain ⟨c, tail, rfl, hc⟩ := hds.head
      simp only [List.append_assoc, List.cons_append] at hread hfollowing ⊢
      rw [takeItems, hread]
      simp [skip_cons hbehind (by decide : ',' ≠ '/' ∧ isBlank ',' = false),
        skip_cons hbefore (solid_of_mem_starters hc), ne_closing_of_mem_starters hc, hfollowing]

theorem readsMembers_succ (hvalues : ReadsValues steps) (hmembers : ReadsMembers steps) :
    ReadsMembers (steps + 1) := by
  intro members cs h hsound hsteps rest
  cases h with
  | @last name d cs behind before after hbehind hbefore hd hafter =>
      have hname : Unseparated (quote name) := fun c hc => hsound c (by simp [hc])
      have hvalue : Unseparated cs := fun c hc => hsound c (by simp [hc])
      have hread := hvalues hd hvalue (by simp at hsteps; omega)
        (ends_blanks hafter (ends_cons (by decide : '}' ∈ enders) rest))
      obtain ⟨c, tail, rfl, hc⟩ := hd.head
      simp only [List.append_assoc, List.cons_append] at hread ⊢
      rw [takeMembers, takeName_quote hname]
      simp [takeColon_cons hbehind hbefore (solid_of_mem_starters hc), hread,
        skip_cons hafter (by decide : '}' ≠ '/' ∧ isBlank '}' = false)]
  | @more name d ms cs behind before after next following hbehind hbefore hd hafter hnext hms =>
      have hname : Unseparated (quote name) := fun c hc => hsound c (by simp [hc])
      have hvalue : Unseparated cs := fun c hc => hsound c (by simp [hc])
      have hlater : Unseparated following := fun c hc => hsound c (by simp [hc])
      have hread := hvalues hd hvalue (by simp at hsteps; omega)
        (ends_blanks hafter (ends_cons (by decide : ',' ∈ enders)
          (next ++ (following ++ '}' :: rest))))
      have hfollowing := hmembers hms hlater (by simp at hsteps; omega) rest
      obtain ⟨c, tail, rfl, hc⟩ := hd.head
      obtain ⟨after', rfl⟩ := hms.head
      simp only [List.append_assoc, List.cons_append] at hread hfollowing ⊢
      rw [takeMembers, takeName_quote hname]
      simp [takeColon_cons hbehind hbefore (solid_of_mem_starters hc), hread,
        skip_cons hafter (by decide : ',' ≠ '/' ∧ isBlank ',' = false),
        skip_cons hnext (by decide : '"' ≠ '/' ∧ isBlank '"' = false), hfollowing]

/-- The steps that a text is given suffice, by induction on their number. -/
theorem reads (steps : Nat) : ReadsValues steps ∧ ReadsItems steps ∧ ReadsMembers steps := by
  induction steps with
  | zero =>
      refine ⟨readsValues_zero, ?_, ?_⟩
      · intro items cs _ _ hsteps
        omega
      · intro members cs _ _ hsteps
        omega
  | succ steps ih =>
      obtain ⟨hvalues, hitems, hmembers⟩ := ih
      exact ⟨readsValues_succ hitems hmembers, readsItems_succ hvalues hitems,
        readsMembers_succ hvalues hmembers⟩

end Json5

/-- A plain text of a document without the two separators, with blanks around it, is read as the
document put in order. -/
theorem ofJson5Chars?_of_spells {d : Document} {before cs after : List Char}
    (hbefore : Blanks before) (h : Spells d cs) (hafter : Blanks after)
    (hsound : Unseparated cs) :
    ofJson5Chars? (before ++ (cs ++ after)) = some d.normalise := by
  have hends : Ends after := by
    rw [← List.append_nil after]
    exact ends_blanks hafter ends_nil
  have hblank : Json5.skip after = some [] := by
    rw [← List.append_nil after, Json5.skip_gap hafter]
    rfl
  have hread := (Json5.reads (2 * (cs ++ after).length + 2)).1 h hsound
    (by simp only [List.length_append]; omega) hends
  have hskip : Json5.skip (before ++ (cs ++ after)) = some (cs ++ after) := by
    obtain ⟨c, tail, rfl, hc⟩ := h.head
    exact Json5.skip_cons hbefore (Json5.solid_of_mem_starters hc) _
  simp only [ofJson5Chars?, hskip, hread, hblank, Option.bind_eq_bind, Option.bind_some, if_true]

/-- What is written on one line is read as JSON5, too. -/
theorem ofJson5?_write {d : Document} (h : d.isPlain = true)
    (hsound : Unseparated d.write.toList) : ofJson5? d.write = some d.normalise := by
  rw [write, String.toList_ofList] at hsound
  have hread := ofJson5Chars?_of_spells blanks_nil (spells_writeChars d h) blanks_nil hsound
  rw [ofJson5?, write, String.toList_ofList]
  simpa using hread

/-- What is written over several lines is read as JSON5, too. -/
theorem ofJson5?_lay {d : Document} (h : d.isPlain = true)
    (hsound : Unseparated d.lay.toList) : ofJson5? d.lay = some d.normalise := by
  rw [lay, String.toList_ofList] at hsound
  have hread := ofJson5Chars?_of_spells blanks_nil (spells_layChars 0 d h) blanks_nil hsound
  rw [ofJson5?, lay, String.toList_ofList]
  simpa using hread

end Allotment.Document
