import Allotment.Text.CodeRange

/-!
# Blank characters

Facts and attributes arrive with stray blanks around them. A blank is one of the twenty-five
characters with the Unicode property White_Space; `trim` drops them at both ends of a text and
keeps those inside, and `nonBlank?` reads a text that holds nothing else as absent.
-/

namespace Allotment.Text

/-- Characters with the property White_Space. -/
def blankRanges : List CodeRange :=
  [(0x09, 0x0D), (0x20, 0x20), (0x85, 0x85), (0xA0, 0xA0), (0x1680, 0x1680), (0x2000, 0x200A),
   (0x2028, 0x2029), (0x202F, 0x202F), (0x205F, 0x205F), (0x3000, 0x3000)]

def isBlank (c : Char) : Bool := inRanges blankRanges c

/-- Drops the blanks at the end. -/
def dropBlankEnd (cs : List Char) : List Char :=
  (cs.reverse.dropWhile isBlank).reverse

/-- Drops the blanks at both ends. -/
def trimChars (cs : List Char) : List Char :=
  dropBlankEnd (cs.dropWhile isBlank)

def trim (s : String) : String :=
  String.ofList (trimChars s.toList)

/-- The trimmed text, unless nothing is left of it. -/
def nonBlank? (s : String) : Option String :=
  if trim s = "" then none else some (trim s)

theorem head_dropWhile {p : Char → Bool} {cs : List Char} {c : Char}
    (h : (cs.dropWhile p).head? = some c) : p c = false := by
  induction cs with
  | nil => simp at h
  | cons d ds ih =>
      by_cases hd : p d = true
      · exact ih (by simpa [List.dropWhile_cons, hd] using h)
      · simp only [List.dropWhile_cons, hd, Bool.false_eq_true, if_false, List.head?_cons,
          Option.some.injEq] at h
        simpa [h] using hd

theorem dropWhile_of_head {p : Char → Bool} {cs : List Char}
    (h : ∀ c, cs.head? = some c → p c = false) : cs.dropWhile p = cs := by
  cases cs with
  | nil => rfl
  | cons c cs => simp [h c rfl]

theorem prefix_dropBlankEnd (cs : List Char) : dropBlankEnd cs <+: cs := by
  rw [dropBlankEnd, ← List.reverse_suffix, List.reverse_reverse]
  exact List.dropWhile_suffix _

/-- The first character of a text survives dropping blanks at the end unless all go. -/
theorem head_dropBlankEnd {cs : List Char} {c : Char}
    (h : (dropBlankEnd cs).head? = some c) : cs.head? = some c := by
  obtain ⟨rest, hrest⟩ := prefix_dropBlankEnd cs
  rw [← hrest, List.head?_append, h]
  rfl

@[simp] theorem dropBlankEnd_dropBlankEnd (cs : List Char) :
    dropBlankEnd (dropBlankEnd cs) = dropBlankEnd cs := by
  simp only [dropBlankEnd, List.reverse_reverse]
  rw [dropWhile_of_head fun c hc => head_dropWhile hc]

@[simp] theorem trimChars_trimChars (cs : List Char) :
    trimChars (trimChars cs) = trimChars cs := by
  have h : (trimChars cs).dropWhile isBlank = trimChars cs :=
    dropWhile_of_head fun c hc => head_dropWhile (head_dropBlankEnd hc)
  rw [trimChars, h, trimChars, dropBlankEnd_dropBlankEnd]

@[simp] theorem toList_trim (s : String) : (trim s).toList = trimChars s.toList := by
  simp [trim]

/-- Trimming twice is trimming once. -/
@[simp] theorem trim_trim (s : String) : trim (trim s) = trim s := by
  simp [trim]

/-- Blanks around a text are not seen by `nonBlank?`. -/
@[simp] theorem nonBlank?_trim (s : String) : nonBlank? (trim s) = nonBlank? s := by
  simp [nonBlank?]

theorem trim_of_nonBlank? {s t : String} (h : nonBlank? s = some t) : trim t = t := by
  unfold nonBlank? at h
  split at h
  · cases h
  · cases h
    exact trim_trim s

end Allotment.Text
