import Allotment.Consumer
import Allotment.Pool
import Allotment.Validation.Rule

/-!
# Data without stray blanks

A consumer and a pool can be cleaned of the blanks around what is written in their facts and
attributes. Attributes are read as before (`Pool.attribute?_trimmed`), and so are facts by every
reader that trims what it reads (`bind_eq_of_map_trim`). A reader that looks at the front of a text
as it stands sees a difference only where a blank stands there (`Text.prefix_trim_iff`).
-/

namespace Allotment

/-! ## Words at the front -/

namespace Text

/-- A word without blanks is not cut by dropping blanks behind it. -/
theorem prefix_dropBlankEnd_iff {word cs : List Char} (hword : ∀ c ∈ word, isBlank c = false) :
    word <+: dropBlankEnd cs ↔ word <+: cs := by
  constructor
  · exact fun h => h.trans (prefix_dropBlankEnd cs)
  · rintro ⟨rest, rfl⟩
    have hstays : word.reverse.dropWhile isBlank = word.reverse :=
      dropWhile_of_head fun c hc => hword c (List.mem_reverse.mp (List.mem_of_mem_head? hc))
    rw [dropBlankEnd, List.reverse_append, List.dropWhile_append, hstays]
    split
    · simp
    · rw [List.reverse_append, List.reverse_reverse]
      exact List.prefix_append _ _

/-- Unless a text begins with a blank, the same words stand in front of it when it is trimmed. -/
theorem prefix_trim_iff {word : List Char} {text : String}
    (hword : ∀ c ∈ word, isBlank c = false) (hfront : text.toList.head?.any isBlank = false) :
    word <+: (trim text).toList ↔ word <+: text.toList := by
  have hkept : text.toList.dropWhile isBlank = text.toList :=
    dropWhile_of_head fun c hc => by simpa [hc] using hfront
  rw [toList_trim, trimChars, hkept, prefix_dropBlankEnd_iff hword]

/-- A word without blanks stands in front of no text that begins with a blank. -/
theorem not_prefix_of_blank {word : List Char} {text : String} (hne : word ≠ [])
    (hword : ∀ c ∈ word, isBlank c = false) (hfront : text.toList.head?.any isBlank = true) :
    ¬ word <+: text.toList := by
  rintro ⟨rest, hrest⟩
  obtain ⟨c, tail, rfl⟩ := List.exists_cons_of_ne_nil hne
  rw [← hrest, List.cons_append, List.head?_cons, Option.any_some,
    hword c List.mem_cons_self] at hfront
  cases hfront

end Text

/-! ## Readers that trim -/

/-- Who trims what is read cannot tell texts apart that differ in the blanks around them. -/
theorem bind_eq_of_map_trim {α : Type} {value other : Option String} {read : String → Option α}
    (hread : ∀ text, read (Text.trim text) = read text)
    (h : other.map Text.trim = value.map Text.trim) : other.bind read = value.bind read := by
  have htrimmed (v : Option String) : v.bind read = (v.map Text.trim).bind read := by
    rw [Option.bind_map]
    exact Option.bind_congr fun text _ => (hread text).symm
  rw [htrimmed other, h, ← htrimmed value]

@[simp] theorem readPositive?_trim (text : String) :
    readPositive? (Text.trim text) = readPositive? text := by
  simp [readPositive?]

/-! ## Consumers and pools -/

namespace Consumer

/-- The consumer without blanks around its facts and its service level. -/
def trimmed (c : Consumer) : Consumer :=
  { c with facts := c.facts.map Text.trim, serviceLevel := c.serviceLevel.map Text.trim }

@[simp] theorem fact?_trimmed (c : Consumer) (name : String) :
    c.trimmed.fact? name = (c.fact? name).map Text.trim :=
  Table.get?_map c.facts Text.trim name

theorem map_trim_fact?_trimmed (c : Consumer) (name : String) :
    (c.trimmed.fact? name).map Text.trim = (c.fact? name).map Text.trim := by
  simp [Function.comp_def]

end Consumer

namespace Pool

/-- The pool without blanks around the values of its attributes and those of its product. -/
def trimmed (p : Pool) : Pool :=
  { p with
    attributes := p.attributes.map Text.trim
    productAttributes := p.productAttributes.map Text.trim }

@[simp] theorem attribute?_trimmed (p : Pool) (name : String) :
    p.trimmed.attribute? name = p.attribute? name := by
  simp only [attribute?, trimmed, Table.get?_map, Option.bind_map, Function.comp_def,
    Text.nonBlank?_trim]

@[simp] theorem productAttribute?_trimmed (p : Pool) (name : String) :
    p.trimmed.productAttribute? name = p.productAttribute? name := by
  simp only [productAttribute?, trimmed, Table.get?_map, Option.bind_map, Function.comp_def,
    Text.nonBlank?_trim]

end Pool

end Allotment
