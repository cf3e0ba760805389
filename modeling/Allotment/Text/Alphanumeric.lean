import Allotment.Text.Property.Alphabetic
import Allotment.Text.Property.Letter
import Allotment.Text.Property.Number

/-!
# Alphabetic and numeric characters

A character is alphabetic if it is a letter, a number made of letters, or one of the vowel signs
and circled letters that count as such. It is alphanumeric if it is alphabetic or a number of
any other kind.
-/

namespace Allotment.Text

def isAlphabetic (c : Char) : Bool :=
  inRanges letterRanges c || inRanges otherAlphabeticRanges c

def isAlphanumeric (c : Char) : Bool :=
  isAlphabetic c || inRanges digitRanges c || inRanges otherNumberRanges c

theorem isAlphanumeric_of_isAlphabetic {c : Char} (h : isAlphabetic c = true) :
    isAlphanumeric c = true := by
  simp [isAlphanumeric, h]

end Allotment.Text
