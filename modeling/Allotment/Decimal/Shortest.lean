import Allotment.Decimal.Binary64

/-!
# The shortest decimal that reads back

Of the decimals that round to a binary64 number, the written one has the fewest digits, and of
those the one nearest to the number, a tie going to the even last digit. It is written without
an exponent from `0.00001` up to sixteen digits before the point, and always with a point or an
exponent, so that it is never taken for a whole number. The exponent always has a sign.
-/

namespace Allotment

/-- The value `digits * 10^exponent`. -/
structure Decimal where
  digits : Nat
  exponent : Int
  deriving DecidableEq, Repr

namespace Decimal

/-- Compares `a * 10^i` with `n * 2^j`. -/
def compareScaled (a : Nat) (i : Int) (n : Nat) (j : Int) : Ordering :=
  compare (a * power 10 i * power 2 (-j)) (n * power 2 j * power 10 (-i))

/-- The decimal rounds to the number. The interval ends halfway to the two neighbours, of which
the lower one is nearer at a power of two; its ends belong to an even significand. -/
def readsBack (x : Binary64) (d : Decimal) : Bool :=
  let narrow := x.significand == 4503599627370496 && x.exponent != -1074
  let lower := compareScaled d.digits d.exponent
    (4 * x.significand - if narrow then 1 else 2) (x.exponent - 2)
  let upper := compareScaled d.digits d.exponent (4 * x.significand + 2) (x.exponent - 2)
  let even := x.significand % 2 == 0
  (lower == .gt || (even && lower == .eq)) && (upper == .lt || (even && upper == .eq))

/-- The least `k` with the number below `10^k`, sought near what the binary scale suggests. -/
def scale (x : Binary64) : Int :=
  let guess := ((x.significand.log2 : Int) + x.exponent) * 1233 / 4096 - 1
  match (List.range 6).find? fun (i : Nat) =>
      compareScaled 1 (guess + i) x.significand x.exponent == .gt with
  | some i => guess + i
  | none => guess

/-- The best decimal that reads back on the grid of the powers of ten with the exponent. -/
def onGrid? (x : Binary64) (exponent : Int) : Option Decimal :=
  let num := x.significand * power 2 x.exponent * power 10 (-exponent)
  let den := power 2 (-x.exponent) * power 10 exponent
  let below : Decimal := ⟨num / den, exponent⟩
  let above : Decimal := ⟨num / den + 1, exponent⟩
  let nearest := if Binary64.roundQuotient num den = num / den then below else above
  if readsBack x nearest then some nearest
  else if readsBack x below then some below
  else if readsBack x above then some above
  else none

/-- Takes the zeros off the end of the digits, at most as many as the bound says. -/
def stripped : Nat → Decimal → Decimal
  | 0, d => d
  | bound + 1, d =>
      if d.digits ≠ 0 ∧ d.digits % 10 = 0 then stripped bound ⟨d.digits / 10, d.exponent + 1⟩
      else d

/-- The shortest decimal of a number that is not zero. Seventeen digits always read back. -/
def shortest (x : Binary64) : Decimal :=
  match (List.range 17).findSome? fun (n : Nat) => onGrid? x (scale x - (n + 1)) with
  | some d => stripped 17 d
  | none => ⟨x.significand * power 2 x.exponent * power 5 (-x.exponent), min x.exponent 0⟩

/-- Places the point among the digits. -/
def layout (digits : List Char) (exponent : Int) : List Char :=
  let point := digits.length + exponent
  if 0 ≤ exponent ∧ point ≤ 16 then
    digits ++ List.replicate exponent.toNat '0' ++ ['.', '0']
  else if 0 < point ∧ point ≤ 16 then
    digits.take point.toNat ++ '.' :: digits.drop point.toNat
  else if -5 < point ∧ point ≤ 0 then
    '0' :: '.' :: List.replicate (-point).toNat '0' ++ digits
  else
    let fraction := if digits.length = 1 then [] else '.' :: digits.drop 1
    let mark := if 0 < point then ['e', '+'] else ['e', '-']
    digits.take 1 ++ fraction ++ mark ++ Nat.toDigits 10 (point - 1).natAbs

end Decimal

namespace Binary64

/-- The written form of a number. -/
def write (x : Binary64) : List Char :=
  let sign := if x.negative then ['-'] else []
  if x.significand = 0 then sign ++ ['0', '.', '0']
  else
    let d := Decimal.shortest x
    sign ++ Decimal.layout (Nat.toDigits 10 d.digits) d.exponent

end Binary64

end Allotment
