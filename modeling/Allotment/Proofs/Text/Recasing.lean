import Allotment.Text.Blank
import Allotment.Text.LetterCase
import Allotment.Text.Pieces

/-!
# Texts in other letters

Whether a text is trimmed or cut at a comma first, and the case of its letters put aside afterwards,
or the other way round, comes to the same (`lower_trim`, `map_lower_pieces`). So of texts in the
same letters the trimmed texts and the pieces are in the same letters, too.
-/

namespace Allotment.Text

theorem toNat_toLower (c : Char) :
    c.toLower.toNat = if 0x41 ≤ c.toNat ∧ c.toNat ≤ 0x5A then c.toNat + 32 else c.toNat := by
  have hcapital : c.val ≥ 'A'.val ∧ c.val ≤ 'Z'.val ↔ 0x41 ≤ c.toNat ∧ c.toNat ≤ 0x5A := by
    rw [ge_iff_le, UInt32.le_iff_toNat_le, UInt32.le_iff_toNat_le]
    rfl
  unfold Char.toLower
  split
  · rename_i h
    have hle : c.val.toNat ≤ 0x5A := (hcapital.mp h).2
    rw [if_pos (hcapital.mp h)]
    change (c.val + 32).toNat = c.val.toNat + 32
    rw [UInt32.toNat_add]
    exact Nat.mod_eq_of_lt (by change c.val.toNat + 32 < 2 ^ 32; omega)
  · rename_i h
    rw [if_neg (mt hcapital.mpr h)]

/-- Letters are no blanks, whichever their case. -/
theorem isBlank_toLower (c : Char) : isBlank c.toLower = isBlank c := by
  rw [Bool.eq_iff_iff, isBlank, isBlank, inRanges_iff, inRanges_iff, toNat_toLower]
  simp only [blankRanges, List.mem_cons, List.not_mem_nil, or_false, exists_eq_or_imp,
    exists_eq_left]
  split <;> omega

/-- No letter becomes a comma. -/
theorem toLower_eq_comma_iff (c : Char) : c.toLower = ',' ↔ c = ',' := by
  have hcomma : ','.toNat = 0x2C := rfl
  rw [← Char.toNat_inj, ← Char.toNat_inj, toNat_toLower, hcomma]
  split <;> omega

/-! ## Trimming -/

theorem dropWhile_isBlank_map (cs : List Char) :
    (cs.map Char.toLower).dropWhile isBlank = (cs.dropWhile isBlank).map Char.toLower := by
  have hblank : isBlank ∘ Char.toLower = isBlank := funext isBlank_toLower
  rw [List.dropWhile_map, hblank]

theorem trimChars_map (cs : List Char) :
    trimChars (cs.map Char.toLower) = (trimChars cs).map Char.toLower := by
  rw [trimChars, trimChars, dropBlankEnd, dropBlankEnd, dropWhile_isBlank_map, ← List.map_reverse,
    dropWhile_isBlank_map, List.map_reverse]

theorem lower_trim (s : String) : lower (trim s) = trim (lower s) := by
  simp [lower, trim, trimChars_map]

@[simp] theorem lower_eq_empty_iff {s : String} : lower s = "" ↔ s = "" := by
  rw [← String.toList_inj, ← String.toList_inj]
  simp [lower]

theorem map_lower_nonBlank? (s : String) : (nonBlank? s).map lower = nonBlank? (lower s) := by
  rw [nonBlank?, nonBlank?, ← lower_trim]
  by_cases h : trim s = "" <;> simp [h]

/-! ## Cutting at commas -/

theorem piecesAt_comma_map (cs : List Char) :
    piecesAt [','] 0 (cs.map Char.toLower) = (piecesAt [','] 0 cs).map (List.map Char.toLower) := by
  induction cs with
  | nil => rfl
  | cons c cs ih =>
      by_cases hc : c = ','
      · have hlower : c.toLower = ',' := (toLower_eq_comma_iff c).mpr hc
        rw [List.map_cons, piecesAt, piecesAt, hlower, hc]
        simp [ih]
      · have hlower : ¬ c.toLower = ',' := mt (toLower_eq_comma_iff c).mp hc
        rw [List.map_cons, piecesAt, piecesAt, ih]
        cases piecesAt [','] 0 cs <;> simp [Ne.symm hc, Ne.symm hlower]

theorem map_lower_pieces (s : String) : (pieces "," s).map lower = pieces "," (lower s) := by
  have hne : ¬ "," = "" := by decide
  have hcomma : ",".toList = [','] := rfl
  rw [pieces, pieces, if_neg hne, if_neg hne, hcomma, lower, String.toList_ofList,
    piecesAt_comma_map, List.map_map, List.map_map]
  refine List.map_congr_left fun cs _ => ?_
  simp [lower]

end Allotment.Text
