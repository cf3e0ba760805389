/-!
# Finite binary64 numbers

A number of the format is a sign, a significand below `2^53` and an exponent of two. Each value
has one form: the significand is at least `2^52` unless the exponent is already the least.
`ofDecimal?` rounds a decimal to the nearest number of the format, a tie to the even
significand, and knows no value for what lies beyond the greatest one.
-/

namespace Allotment

/-- The power of a base; one where the exponent is negative. -/
def power (base : Nat) (exponent : Int) : Nat := Nat.pow base exponent.toNat

structure Binary64 where
  negative : Bool
  significand : Nat
  exponent : Int
  significand_lt : significand < 9007199254740992
  least_le : -1074 ≤ exponent
  le_greatest : exponent ≤ 971
  normal : 4503599627370496 ≤ significand ∨ exponent = -1074
  deriving DecidableEq, Repr

namespace Binary64

def of? (negative : Bool) (significand : Nat) (exponent : Int) : Option Binary64 :=
  if h : significand < 9007199254740992 ∧ -1074 ≤ exponent ∧ exponent ≤ 971 ∧
      (4503599627370496 ≤ significand ∨ exponent = -1074) then
    some ⟨negative, significand, exponent, h.1, h.2.1, h.2.2.1, h.2.2.2⟩
  else none

def zero (negative : Bool) : Binary64 :=
  ⟨negative, 0, -1074, by decide, by decide, by decide, by decide⟩

/-- The quotient rounded to the nearest whole number, a tie to the even one. -/
def roundQuotient (num den : Nat) : Nat :=
  let whole := num / den
  let twice := 2 * (num % den)
  if den < twice ∨ (den = twice ∧ whole % 2 = 1) then whole + 1 else whole

/-- The greatest `k` with `2^k ≤ num / den`, for positive numbers. -/
def binaryScale (num den : Nat) : Int :=
  let k := (num.log2 : Int) - den.log2
  if num * power 2 (-k) < den * power 2 k then k - 1 else k

/-- Rounds a positive quotient. -/
def ofQuotient? (negative : Bool) (num den : Nat) : Option Binary64 :=
  let exponent := max (binaryScale num den - 52) (-1074)
  let significand := roundQuotient (num * power 2 (-exponent)) (den * power 2 exponent)
  if significand = 9007199254740992 then of? negative 4503599627370496 (exponent + 1)
  else of? negative significand exponent

/-- The number nearest to `digits * 10^exponent`. Magnitudes far outside the format are settled
before a power of ten is formed. -/
def ofDecimal? (negative : Bool) (digits : Nat) (exponent : Int) : Option Binary64 :=
  let magnitude := (Nat.toDigits 10 digits).length + exponent
  if digits = 0 ∨ magnitude < -323 then some (zero negative)
  else if 310 < magnitude then none
  else ofQuotient? negative (digits * power 10 exponent) (power 10 (-exponent))

/-- The number has no fractional part. -/
def isWhole (x : Binary64) : Bool :=
  x.significand % power 2 (-x.exponent) == 0

/-- The number lies below a whole number. -/
def ltInt (x : Binary64) (n : Int) : Bool :=
  let signed : Int := if x.negative then -x.significand else x.significand
  decide (signed * power 2 x.exponent < n * power 2 (-x.exponent))

end Binary64

end Allotment
