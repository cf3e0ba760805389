import Allotment.Text.Property.Diacritic
import Allotment.Text.Property.Letter
import Allotment.Text.Property.Mark
import Allotment.Text.Property.Number

/-!
# Identifiers

A name without quotation marks begins with a letter, a number made of letters, `$` or `_`. It
goes on with those, with marks that take no room, diacritics, decimal digits, connecting
punctuation and the two joiners. Marks that take room are refused unless they are diacritics.
-/

namespace Allotment.Text

/-- Punctuation that connects words, the low line first. -/
def connectorRanges : List CodeRange :=
  [(0x5F, 0x5F), (0x203F, 0x2040), (0x2054, 0x2054), (0xFE33, 0xFE34), (0xFE4D, 0xFE4F),
   (0xFF3F, 0xFF3F)]

example : CodeRange.ascending connectorRanges = true := by decide

def startsIdentifier (c : Char) : Bool :=
  inRanges letterRanges c || c == '$' || c == '_'

def continuesIdentifier (c : Char) : Bool :=
  startsIdentifier c || inRanges markRanges c || inRanges diacriticRanges c ||
    inRanges digitRanges c || inRanges connectorRanges c || c == '\u200c' || c == '\u200d'

theorem continuesIdentifier_of_starts {c : Char} (h : startsIdentifier c = true) :
    continuesIdentifier c = true := by
  simp [continuesIdentifier, h]

end Allotment.Text
