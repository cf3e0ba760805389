import Allotment.Calendar.Notation
import Mathlib.Algebra.Group.Nat.Defs

/-!
# Reading timestamps back

Every timestamp is read from its written form, to the nanosecond and with its offset
(`read?_write`). Each part of the form has a fixed width or ends where no digit can follow.
-/

namespace Allotment.Timestamp

/-! ## Numbers of fixed width -/

theorem length_padded (width n : Nat) : (padded width n).length = width := by
  induction width generalizing n with
  | zero => rfl
  | succ width ih => rw [padded, List.length_append, ih, List.length_singleton]

theorem isDigit_digitChar : ∀ d < 10, (Nat.digitChar d).isDigit = true := by decide

theorem isDigit_of_mem_padded {width n : Nat} {c : Char} (h : c ∈ padded width n) :
    c.isDigit = true := by
  induction width generalizing n with
  | zero => cases h
  | succ width ih =>
      rcases List.mem_append.mp h with h | h
      · exact ih h
      · rw [List.mem_singleton.mp h]
        exact isDigit_digitChar _ (Nat.mod_lt n (by decide))

theorem digitsValue_append_singleton (cs : List Char) (c : Char) :
    Text.digitsValue (cs ++ [c]) = 10 * Text.digitsValue cs + (c.toNat - '0'.toNat) := by
  rw [Text.digitsValue, Nat.ofDigitChars_append, Nat.ofDigitChars_cons, Nat.ofDigitChars_nil,
    Text.digitsValue]

theorem digitsValue_padded (width n : Nat) :
    Text.digitsValue (padded width n) = n % 10 ^ width := by
  induction width generalizing n with
  | zero => rw [Nat.pow_zero, Nat.mod_one]; rfl
  | succ width ih =>
      have hdigit : (Nat.digitChar (n % 10)).toNat - '0'.toNat = n % 10 := by
        rw [Nat.toNat_digitChar_of_lt_ten (Nat.mod_lt n (by decide))]
        exact Nat.add_sub_cancel_left 48 _
      rw [padded, digitsValue_append_singleton, ih, hdigit, Nat.pow_succ, Nat.mul_comm (10 ^ width),
        Nat.mod_mul, Nat.add_comm]

/-- A number that fits its width is read, and what stands behind it is left. -/
theorem takeNumber_padded {width n : Nat} (h : n < 10 ^ width) (rest : List Char) :
    takeNumber width (padded width n ++ rest) = some (n, rest) := by
  have hlength := length_padded width n
  have htake : (padded width n ++ rest).take width = padded width n := by
    rw [List.take_append_of_le_length (Nat.le_of_eq hlength.symm),
      List.take_of_length_le (Nat.le_of_eq hlength)]
  have hdrop : (padded width n ++ rest).drop width = rest := by
    rw [List.drop_append_of_le_length (Nat.le_of_eq hlength.symm),
      List.drop_of_length_le (Nat.le_of_eq hlength), List.nil_append]
  have hdigits : (padded width n).all Char.isDigit = true :=
    List.all_eq_true.mpr fun c hc => isDigit_of_mem_padded hc
  have hwidth : width ≤ (padded width n ++ rest).length := by
    rw [List.length_append, hlength]
    exact Nat.le_add_right _ _
  rw [takeNumber, htake, hdrop, if_pos ⟨hwidth, hdigits⟩, digitsValue_padded,
    Nat.mod_eq_of_lt h]

/-- All parts of date, time and offset but the year have two digits. -/
theorem takeNumber_two {n : Nat} (h : n < 100) (rest : List Char) :
    takeNumber 2 (padded 2 n ++ rest) = some (n, rest) :=
  takeNumber_padded h rest

theorem takeMark_self (mark : Char) (cs : List Char) : takeMark mark (mark :: cs) = some cs :=
  if_pos rfl

/-! ## Fractions of a second -/

/-- The zeros that were taken off the end stand there again. -/
theorem exists_fractionDigits_append (nanosecond : Nat) :
    ∃ count, fractionDigits nanosecond ++ List.replicate count '0' = padded 9 nanosecond := by
  refine ⟨((padded 9 nanosecond).reverse.takeWhile (· == '0')).length, ?_⟩
  have hzeros : (padded 9 nanosecond).reverse.takeWhile (· == '0') =
      List.replicate ((padded 9 nanosecond).reverse.takeWhile (· == '0')).length '0' := by
    refine List.eq_replicate_iff.mpr ⟨rfl, fun c hc => ?_⟩
    have hall := List.all_takeWhile (p := (· == '0')) (l := (padded 9 nanosecond).reverse)
    simpa using List.all_eq_true.mp hall c hc
  rw [← List.reverse_replicate, ← hzeros, fractionDigits, ← List.reverse_append,
    List.takeWhile_append_dropWhile, List.reverse_reverse]

theorem nanosecondsOf_fractionDigits {nanosecond : Nat} (h : nanosecond < 1000000000) :
    nanosecondsOf (fractionDigits nanosecond) = nanosecond := by
  obtain ⟨count, hpadded⟩ := exists_fractionDigits_append nanosecond
  have hlength : (fractionDigits nanosecond).length + count = 9 := by
    rw [← length_padded 9 nanosecond, ← hpadded, List.length_append, List.length_replicate]
  have hzeros : List.replicate 9 '0' =
      List.replicate count '0' ++ List.replicate (9 - count) '0' := by
    rw [List.replicate_append_replicate]
    congr 1
    omega
  have hnine : (fractionDigits nanosecond ++ List.replicate 9 '0').take 9 =
      padded 9 nanosecond := by
    rw [hzeros, ← List.append_assoc, hpadded]
    exact List.take_left' (length_padded 9 nanosecond)
  rw [nanosecondsOf, hnine, digitsValue_padded]
  exact Nat.mod_eq_of_lt h

theorem isDigit_of_mem_fractionDigits {nanosecond : Nat} {c : Char}
    (h : c ∈ fractionDigits nanosecond) : c.isDigit = true := by
  obtain ⟨count, hpadded⟩ := exists_fractionDigits_append nanosecond
  exact isDigit_of_mem_padded (hpadded ▸ List.mem_append_left _ h)

theorem fractionDigits_ne_nil {nanosecond : Nat} (hpos : nanosecond ≠ 0)
    (h : nanosecond < 1000000000) : fractionDigits nanosecond ≠ [] := by
  intro hnil
  have hvalue := nanosecondsOf_fractionDigits h
  rw [hnil] at hvalue
  exact hpos (hvalue.symm.trans (by decide))

/-- A character stands behind the fraction that does not belong to it. -/
theorem takeFraction_writeFraction {nanosecond : Nat} (h : nanosecond < 1000000000) {c : Char}
    (hpoint : c ≠ '.') (hdigit : c.isDigit = false) (rest : List Char) :
    takeFraction (writeFraction nanosecond ++ c :: rest) = some (nanosecond, c :: rest) := by
  by_cases hzero : nanosecond = 0
  · rw [hzero, writeFraction, if_pos rfl, List.nil_append]
    unfold takeFraction
    split
    · rename_i heq
      exact absurd (List.cons.inj heq).1 hpoint
    · rfl
  · have hdigits : ∀ d ∈ fractionDigits nanosecond, d.isDigit = true :=
      fun d hd => isDigit_of_mem_fractionDigits hd
    have htake : (fractionDigits nanosecond ++ c :: rest).takeWhile Char.isDigit =
        fractionDigits nanosecond := by
      rw [List.takeWhile_append_of_pos hdigits, List.takeWhile_cons_of_neg (by simp [hdigit]),
        List.append_nil]
    have hdrop : (fractionDigits nanosecond ++ c :: rest).dropWhile Char.isDigit = c :: rest := by
      rw [List.dropWhile_append_of_pos hdigits, List.dropWhile_cons_of_neg (by simp [hdigit])]
    rw [writeFraction, if_neg hzero, List.cons_append, takeFraction, htake, hdrop,
      if_neg (fractionDigits_ne_nil hzero h), nanosecondsOf_fractionDigits h]

/-! ## Offsets -/

theorem takeClockOffset_padded {minutes : Nat} (h : minutes < 1440) :
    takeClockOffset (padded 2 (minutes / 60) ++ ':' :: padded 2 (minutes % 60)) =
      some minutes := by
  have hhours : takeNumber 2 (padded 2 (minutes / 60) ++ ':' :: padded 2 (minutes % 60)) =
      some (minutes / 60, ':' :: padded 2 (minutes % 60)) := takeNumber_two (by omega) _
  have hminutes : takeNumber 2 (padded 2 (minutes % 60) ++ []) = some (minutes % 60, []) :=
    takeNumber_two (by omega) []
  rw [List.append_nil] at hminutes
  have hrange : minutes / 60 < 24 ∧ minutes % 60 < 60 := by omega
  have hsum : minutes / 60 * 60 + minutes % 60 = minutes := by omega
  simp [takeClockOffset, hhours, takeMark, hminutes, hrange, hsum]

theorem readOffset?_writeOffset {offset : Int} (hgt : -1440 < offset) (hlt : offset < 1440) :
    readOffset? (writeOffset offset) = some offset := by
  have hread : takeClockOffset (padded 2 (offset.natAbs / 60) ++
      ':' :: padded 2 (offset.natAbs % 60)) = some offset.natAbs :=
    takeClockOffset_padded (by omega)
  unfold writeOffset
  split
  · rename_i hzero
    rw [hzero]
    rfl
  · split
    · rename_i hnegative
      have hvalue : -Int.ofNat offset.natAbs = offset := by
        simp only [Int.ofNat_eq_natCast]
        omega
      rw [List.cons_append, readOffset?, hread, Option.map_some, hvalue]
    · rename_i hpositive
      have hvalue : Int.ofNat offset.natAbs = offset := by
        simp only [Int.ofNat_eq_natCast]
        omega
      rw [List.cons_append, readOffset?, hread, Option.map_some, hvalue]

/-- An offset begins with a mark that ends the time before it. -/
theorem writeOffset_cons (offset : Int) :
    ∃ c rest, writeOffset offset = c :: rest ∧ c ≠ '.' ∧ c.isDigit = false := by
  unfold writeOffset
  split
  · exact ⟨'Z', [], rfl, by decide, by decide⟩
  · split
    · exact ⟨'-', _, rfl, by decide, by decide⟩
    · exact ⟨'+', _, rfl, by decide, by decide⟩

/-! ## Whole timestamps -/

theorem assemble?_self (t : Timestamp) :
    assemble? t.date t.time.hour t.time.minute t.time.second t.time.nanosecond t.offset =
      some t := by
  have hsecond : t.time.second ≠ 60 := Nat.ne_of_lt t.time.second_lt
  simp [assemble?, hsecond, ClockTime.of?_self, of?_self]

theorem day_lt (d : Date) : d.day < 100 := by
  have hdays : Calendar.daysInMonth d.year d.month ≤ 31 := by
    unfold Calendar.daysInMonth
    split
    · split <;> decide
    all_goals decide
  have hday := d.day_le
  omega

theorem read?_write (t : Timestamp) : read? t.write = some t := by
  have hmonth : t.date.month < 100 := Nat.lt_of_le_of_lt t.date.month_le (by decide)
  have hhour : t.time.hour < 100 := Nat.lt_trans t.time.hour_lt (by decide)
  have hminute : t.time.minute < 100 := Nat.lt_trans t.time.minute_lt (by decide)
  have hsecond : t.time.second < 100 := Nat.lt_trans t.time.second_lt (by decide)
  obtain ⟨c, rest, hoffset, hpoint, hdigit⟩ := writeOffset_cons t.offset
  have hfraction := takeFraction_writeFraction t.time.nanosecond_lt hpoint hdigit rest
  rw [← hoffset] at hfraction
  rw [read?, write, String.toList_ofList, readChars?, writeDate, writeTime]
  simp only [List.append_assoc, List.cons_append]
  -- Each part is taken off the front of what the parts before it have left.
  refine Option.bind_eq_some_iff.mpr ⟨_, takeNumber_padded t.date.year_lt _, ?_⟩
  refine Option.bind_eq_some_iff.mpr ⟨_, takeMark_self '-' _, ?_⟩
  refine Option.bind_eq_some_iff.mpr ⟨_, takeNumber_two hmonth _, ?_⟩
  refine Option.bind_eq_some_iff.mpr ⟨_, takeMark_self '-' _, ?_⟩
  refine Option.bind_eq_some_iff.mpr ⟨_, takeNumber_two (day_lt t.date) _, ?_⟩
  refine Option.bind_eq_some_iff.mpr ⟨_, rfl, ?_⟩
  refine Option.bind_eq_some_iff.mpr ⟨_, takeNumber_two hhour _, ?_⟩
  refine Option.bind_eq_some_iff.mpr ⟨_, takeMark_self ':' _, ?_⟩
  refine Option.bind_eq_some_iff.mpr ⟨_, takeNumber_two hminute _, ?_⟩
  refine Option.bind_eq_some_iff.mpr ⟨_, takeMark_self ':' _, ?_⟩
  refine Option.bind_eq_some_iff.mpr ⟨_, takeNumber_two hsecond _, ?_⟩
  refine Option.bind_eq_some_iff.mpr ⟨_, hfraction, ?_⟩
  refine Option.bind_eq_some_iff.mpr
    ⟨_, readOffset?_writeOffset t.offset_gt t.offset_lt, ?_⟩
  refine Option.bind_eq_some_iff.mpr ⟨_, Date.of?_self t.date, ?_⟩
  exact assemble?_self t

end Allotment.Timestamp
