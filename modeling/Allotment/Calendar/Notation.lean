import Allotment.Calendar.Timestamp
import Allotment.Document.Fields
import Allotment.Text.Numeral

/-!
# The written form of timestamps

`2026-01-31T09:30:00.25+02:00`: date and time in digits of fixed width, a fraction of a second
without trailing zeros where there is one, and the offset, `Z` for none. A reader also takes
any ASCII character between date and time, a small `z`, and any number of digits in the
fraction, of which the first nine count. The second 60 is read as the last nanosecond of the
minute where a leap second can stand.
-/

namespace Allotment.Timestamp

/-- The last digits of a number, as many as the width says. -/
def padded : Nat → Nat → List Char
  | 0, _ => []
  | width + 1, n => padded width (n / 10) ++ [Nat.digitChar (n % 10)]

/-- The digits of a fraction of a second, without the zeros at the end. -/
def fractionDigits (nanosecond : Nat) : List Char :=
  ((padded 9 nanosecond).reverse.dropWhile (· == '0')).reverse

def writeOffset (offset : Int) : List Char :=
  if offset = 0 then ['Z']
  else
    (if offset < 0 then '-' else '+') ::
      padded 2 (offset.natAbs / 60) ++ ':' :: padded 2 (offset.natAbs % 60)

def writeFraction (nanosecond : Nat) : List Char :=
  if nanosecond = 0 then [] else '.' :: fractionDigits nanosecond

def writeDate (d : Date) : List Char :=
  padded 4 d.year ++ '-' :: padded 2 d.month ++ '-' :: padded 2 d.day

def writeTime (t : ClockTime) : List Char :=
  padded 2 t.hour ++ ':' :: padded 2 t.minute ++ ':' :: padded 2 t.second ++
    writeFraction t.nanosecond

def write (t : Timestamp) : String :=
  String.ofList (writeDate t.date ++ 'T' :: writeTime t.time ++ writeOffset t.offset)

/-- Takes a number of exactly so many digits off the front. -/
def takeNumber (width : Nat) (cs : List Char) : Option (Nat × List Char) :=
  if width ≤ cs.length ∧ (cs.take width).all Char.isDigit then
    some (Text.digitsValue (cs.take width), cs.drop width)
  else none

/-- Takes one given character off the front. -/
def takeMark (mark : Char) : List Char → Option (List Char)
  | c :: cs => if c = mark then some cs else none
  | [] => none

/-- The nanoseconds that the digits after the point denote; those after the ninth are cut. -/
def nanosecondsOf (digits : List Char) : Nat :=
  Text.digitsValue ((digits ++ List.replicate 9 '0').take 9)

/-- Takes an optional fraction of a second off the front. -/
def takeFraction : List Char → Option (Nat × List Char)
  | '.' :: cs =>
      if cs.takeWhile Char.isDigit = [] then none
      else some (nanosecondsOf (cs.takeWhile Char.isDigit), cs.dropWhile Char.isDigit)
  | cs => some (0, cs)

def takeClockOffset (cs : List Char) : Option Nat := do
  let (hours, cs) ← takeNumber 2 cs
  let cs ← takeMark ':' cs
  let (minutes, cs) ← takeNumber 2 cs
  if cs = [] ∧ hours < 24 ∧ minutes < 60 then some (hours * 60 + minutes) else none

/-- Reads an offset that ends the text. -/
def readOffset? : List Char → Option Int
  | ['Z'] | ['z'] => some 0
  | '+' :: cs => (takeClockOffset cs).map Int.ofNat
  | '-' :: cs => (takeClockOffset cs).map fun n => -Int.ofNat n
  | _ => none

/-- Takes the character between date and time off the front. -/
def takeSeparator : List Char → Option (List Char)
  | c :: cs => if c.toNat < 128 then some cs else none
  | [] => none

/-- A leap second is held at the last nanosecond before it, where one can stand. -/
def assemble? (date : Date) (hour minute second nanosecond : Nat) (offset : Int) :
    Option Timestamp :=
  if second = 60 then do
    let t ← of? date (← ClockTime.of? hour minute 59 999999999) offset
    if t.endsMonth then some t else none
  else do
    of? date (← ClockTime.of? hour minute second nanosecond) offset

def readChars? (cs : List Char) : Option Timestamp := do
  let (year, cs) ← takeNumber 4 cs
  let cs ← takeMark '-' cs
  let (month, cs) ← takeNumber 2 cs
  let cs ← takeMark '-' cs
  let (day, cs) ← takeNumber 2 cs
  let cs ← takeSeparator cs
  let (hour, cs) ← takeNumber 2 cs
  let cs ← takeMark ':' cs
  let (minute, cs) ← takeNumber 2 cs
  let cs ← takeMark ':' cs
  let (second, cs) ← takeNumber 2 cs
  let (nanosecond, cs) ← takeFraction cs
  let offset ← readOffset? cs
  assemble? (← Date.of? year month day) hour minute second nanosecond offset

def read? (s : String) : Option Timestamp :=
  readChars? s.toList

def ofDocument? (d : Document) : Option Timestamp := d.readText?.bind read?

def toDocument (t : Timestamp) : Document := .text t.write

end Allotment.Timestamp
