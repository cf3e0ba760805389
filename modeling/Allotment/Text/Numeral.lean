/-!
# Whole numbers in text

A numeral is one or more ASCII digits, with an optional sign in front: `+` for any number, `-`
only where negative numbers are allowed. Nothing else may stand in the text, no blank, no
separator. Ranges are the caller's business.
-/

namespace Allotment.Text

/-- The number that a run of decimal digits denotes, most significant first. -/
def digitsValue (cs : List Char) : Nat :=
  Nat.ofDigitChars 10 cs 0

/-- Reads one or more digits and nothing else. -/
def digits? (cs : List Char) : Option Nat :=
  if cs ≠ [] ∧ cs.all Char.isDigit then some (digitsValue cs) else none

/-- Reads a number without a minus sign. -/
def natural? (s : String) : Option Nat :=
  match s.toList with
  | '+' :: cs => digits? cs
  | cs => digits? cs

/-- Reads a number of either sign. -/
def integer? (s : String) : Option Int :=
  match s.toList with
  | '+' :: cs => (digits? cs).map Int.ofNat
  | '-' :: cs => (digits? cs).map fun n => -Int.ofNat n
  | cs => (digits? cs).map Int.ofNat

theorem digits?_minus (cs : List Char) : digits? ('-' :: cs) = none := by
  simp [digits?]

/-- Where a number without a sign is read, the reader of signed numbers reads it too. -/
theorem integer?_of_natural? {s : String} {n : Nat} (h : natural? s = some n) :
    integer? s = some (n : Int) := by
  unfold natural? at h
  unfold integer?
  split at h
  · rename_i cs hs
    simp [hs, h]
  · rename_i cs hplus
    split
    · rename_i ds hs
      exact absurd hs (hplus ds)
    · rename_i ds hs
      rw [hs, digits?_minus] at h
      cases h
    · rw [h]
      rfl

/-- A positive number of the reader of signed numbers is read without a sign, too. -/
theorem natural?_of_integer? {s : String} {n : Nat} (hpos : 0 < n)
    (h : integer? s = some (n : Int)) : natural? s = some n := by
  unfold integer? at h
  unfold natural?
  split at h
  · rename_i cs hs
    obtain ⟨m, hm, hvalue⟩ := Option.map_eq_some_iff.mp h
    rw [hs, ← Int.ofNat.inj hvalue]
    exact hm
  · rename_i cs _
    obtain ⟨m, -, hvalue⟩ := Option.map_eq_some_iff.mp h
    have hvalue : -(m : Int) = n := hvalue
    omega
  · rename_i cs hplus _
    obtain ⟨m, hm, hvalue⟩ := Option.map_eq_some_iff.mp h
    split
    · rename_i ds hs
      exact absurd hs (hplus ds)
    · rw [← Int.ofNat.inj hvalue]
      exact hm

end Allotment.Text
