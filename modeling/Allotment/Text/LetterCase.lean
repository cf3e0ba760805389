/-!
# Letters without case

Words are compared with their case put aside for the ASCII letters only: `É` and `é` stay
apart.
-/

namespace Allotment.Text

/-- Every ASCII capital becomes small; all other characters stay. -/
def lower (s : String) : String :=
  String.ofList (s.toList.map Char.toLower)

/-- The two texts differ at most in the case of ASCII letters. -/
def sameLetters (a b : String) : Bool :=
  lower a == lower b

theorem sameLetters_iff {a b : String} : sameLetters a b = true ↔ lower a = lower b := by
  simp [sameLetters]

@[simp] theorem sameLetters_refl (a : String) : sameLetters a a = true := by
  simp [sameLetters]

theorem sameLetters_comm (a b : String) : sameLetters a b = sameLetters b a := by
  rw [Bool.eq_iff_iff, sameLetters_iff, sameLetters_iff]
  exact eq_comm

end Allotment.Text
