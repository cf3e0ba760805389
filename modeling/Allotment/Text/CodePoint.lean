/-!
# Code points in hexadecimal digits

Escapes name a character by the hexadecimal digits of its code point, or of the two halves of a
surrogate pair. A half that stands alone names no character.
-/

namespace Allotment.Text

def hexDigit? (c : Char) : Option Nat :=
  if '0' ≤ c ∧ c ≤ '9' then some (c.toNat - '0'.toNat)
  else if 'a' ≤ c ∧ c ≤ 'f' then some (c.toNat - 'a'.toNat + 10)
  else if 'A' ≤ c ∧ c ≤ 'F' then some (c.toNat - 'A'.toNat + 10)
  else none

/-- The number that hexadecimal digits denote, most significant first. -/
def hexNumber? (cs : List Char) : Option Nat :=
  cs.foldlM (fun n c => (hexDigit? c).map (16 * n + ·)) 0

def isHighHalf (n : Nat) : Bool := 0xD800 ≤ n && n ≤ 0xDBFF

def isLowHalf (n : Nat) : Bool := 0xDC00 ≤ n && n ≤ 0xDFFF

/-- The character that a pair of halves names. -/
def joinHalves (high low : Nat) : Char :=
  Char.ofNat (0x10000 + (high - 0xD800) * 0x400 + (low - 0xDC00))

/-- The character that a pair of halves names where the seventeenth bit of its code point is set
and not added to. Pairs whose sum has that bit already name the character of another pair. -/
def mergeHalves (high low : Nat) : Char :=
  let bits := (high - 0xD800) * 0x400 + (low - 0xDC00)
  Char.ofNat (if bits / 0x10000 % 2 = 1 then bits else bits + 0x10000)

/-- The characters that numbers name, two halves of a pair together; none where a half stands
alone. -/
def charsOfCodes? : List Nat → Option (List Char)
  | [] => some []
  | n :: ns =>
      if isHighHalf n then
        match ns with
        | [] => none
        | m :: ns =>
            if isLowHalf m then (charsOfCodes? ns).map (joinHalves n m :: ·) else none
      else if isLowHalf n then none
      else (charsOfCodes? ns).map (Char.ofNat n :: ·)

/-- Where the seventeenth bit is free, merging the halves is adding them. -/
theorem mergeHalves_eq_joinHalves {high low : Nat}
    (h : ((high - 0xD800) * 0x400 + (low - 0xDC00)) / 0x10000 % 2 = 0) :
    mergeHalves high low = joinHalves high low := by
  simp only [mergeHalves, joinHalves, h, Nat.zero_ne_one, if_false]
  rw [Nat.add_assoc 0x10000, Nat.add_comm 0x10000]

/-- No character is half of a pair. -/
theorem not_isHalf_toNat (c : Char) : isHighHalf c.toNat = false ∧ isLowHalf c.toNat = false := by
  have h := c.valid
  simp only [UInt32.isValidChar, Nat.isValidChar] at h
  have ht : c.toNat = c.val.toNat := rfl
  simp only [isHighHalf, isLowHalf, Bool.and_eq_false_iff, decide_eq_false_iff_not]
  omega

theorem charsOfCodes?_map_toNat (cs : List Char) :
    charsOfCodes? (cs.map Char.toNat) = some cs := by
  induction cs with
  | nil => rfl
  | cons c cs ih =>
      obtain ⟨hhigh, hlow⟩ := not_isHalf_toNat c
      rw [List.map_cons, charsOfCodes?.eq_def]
      simp [hhigh, hlow, ih, Char.ofNat_toNat]

end Allotment.Text
