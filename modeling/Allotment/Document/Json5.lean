import Allotment.Document
import Allotment.Text.CodePoint
import Allotment.Text.Identifier
import Allotment.Text.Numeral

/-!
# Reading JSON5

Configuration files may carry comments, trailing commas, names without quotation marks, texts
in either kind of quotation mark and numbers in more forms than JSON has. A whole number must
lie between `-2^63` and `2^63 - 1`, in hexadecimal digits below `2^32` and without a sign; a
number with a point or an exponent must lie in the binary64 range. The numbers `Infinity` and
`NaN` have no value of their own and are null. The last value of a repeated name stays.
-/

namespace Allotment.Document

namespace Json5

def isLineEnd (c : Char) : Bool :=
  c == '\n' || c == '\r' || c == '\u2028' || c == '\u2029'

/-- Line ends, tabs, the byte order mark and the characters with the category of a blank. -/
def isBlank (c : Char) : Bool :=
  isLineEnd c || c == '\t' || c == '\x0b' || c == '\x0c' || c == ' ' || c == '\u00a0' ||
    c == '\ufeff' || c == '\u1680' || ('\u2000' ≤ c && c ≤ '\u200a') || c == '\u202f' ||
    c == '\u205f' || c == '\u3000'

/-- Where a reader stands between two tokens. -/
inductive Gap where
  | open
  | lineComment
  | blockComment

/-- Passes blanks and comments; a block comment must be closed. -/
def skipGap : Gap → List Char → Option (List Char)
  | .open, '/' :: '/' :: cs => skipGap .lineComment cs
  | .open, '/' :: '*' :: cs => skipGap .blockComment cs
  | .open, c :: cs => if isBlank c then skipGap .open cs else some (c :: cs)
  | .lineComment, c :: cs => skipGap (if isLineEnd c then .open else .lineComment) cs
  | .blockComment, '*' :: '/' :: cs => skipGap .open cs
  | .blockComment, _ :: cs => skipGap .blockComment cs
  | .blockComment, [] => none
  | _, [] => some []

def skip (cs : List Char) : Option (List Char) := skipGap .open cs

/-- The character that stands behind a backslash for another one, or for itself. -/
def unescape (c : Char) : Char :=
  match c with
  | 'b' => '\x08'
  | 'f' => '\x0c'
  | 'n' => '\n'
  | 'r' => '\r'
  | 't' => '\t'
  | 'v' => '\x0b'
  | c => c

def prepend (c : Char) (result : Option (List Char × List Char)) : Option (List Char × List Char) :=
  result.map fun r => (c :: r.1, r.2)

/-- A backslash before a line end joins two lines; all such joints at the front are passed. -/
def dropJoints : List Char → List Char
  | '\\' :: '\r' :: '\n' :: cs => dropJoints cs
  | '\\' :: c :: cs => if isLineEnd c then dropJoints cs else '\\' :: c :: cs
  | cs => cs

/-- A character named by four hexadecimal digits, or by two times four for a surrogate pair. The
halves of a pair are merged, not added. -/
def takeCodePoint (n : Nat) (cs : List Char) : Option (Char × List Char) :=
  if Text.isLowHalf n then none
  else if Text.isHighHalf n then
    match cs with
    | '\\' :: 'u' :: e :: f :: g :: h :: rest =>
        match Text.hexNumber? [e, f, g, h] with
        | some m => if Text.isLowHalf m then some (Text.mergeHalves n m, rest) else none
        | none => none
    | _ => none
  else some (Char.ofNat n, cs)

/-- Reads the inside of a text up to its closing mark; the first argument bounds the steps. Lines
may be joined between the halves of a pair. -/
def takeText (mark : Char) : Nat → List Char → Option (List Char × List Char)
  | 0, _ => none
  | _, [] => none
  | steps + 1, '\\' :: cs =>
      match cs with
      | '\r' :: '\n' :: cs => takeText mark steps cs
      | 'x' :: a :: b :: cs =>
          match Text.hexNumber? [a, b] with
          | some n => prepend (Char.ofNat n) (takeText mark steps cs)
          | none => none
      | 'u' :: a :: b :: c :: d :: cs => do
          let n ← Text.hexNumber? [a, b, c, d]
          let (c, cs) ← takeCodePoint n (dropJoints cs)
          prepend c (takeText mark steps cs)
      | '0' :: cs => prepend '\x00' (takeText mark steps cs)
      | c :: cs =>
          if isLineEnd c then takeText mark steps cs
          else if c.isDigit ∨ c = 'x' ∨ c = 'u' then none
          else prepend (unescape c) (takeText mark steps cs)
      | [] => none
  | steps + 1, c :: cs =>
      if c = mark then some ([], cs)
      else if isLineEnd c then none
      else prepend c (takeText mark steps cs)

/-- Reads the rest of an identifier. -/
def takeIdentifier : Nat → List Char → Option (List Char × List Char)
  | steps + 1, '\\' :: 'u' :: a :: b :: c :: d :: cs => do
      let n ← Text.hexNumber? [a, b, c, d]
      let (c, cs) ← takeCodePoint n cs
      prepend c (takeIdentifier steps cs)
  | steps + 1, c :: cs =>
      if Text.continuesIdentifier c then prepend c (takeIdentifier steps cs)
      else some ([], c :: cs)
  | _, cs => some ([], cs)

/-- A name with or without quotation marks. -/
def takeName (cs : List Char) : Option (String × List Char) :=
  let steps := cs.length
  match cs with
  | '"' :: rest => (takeText '"' steps rest).map fun r => (String.ofList r.1, r.2)
  | '\'' :: rest => (takeText '\'' steps rest).map fun r => (String.ofList r.1, r.2)
  | c :: _ =>
      if Text.startsIdentifier c ∨ c = '\\' then
        match takeIdentifier steps cs with
        | some ([], _) => none
        | some (name, rest) => some (String.ofList name, rest)
        | none => none
      else none
  | [] => none

/-! ## Numbers -/

inductive Sign where
  | none
  | plus
  | minus
  deriving DecidableEq

def takeDigits (cs : List Char) : List Char × List Char :=
  (cs.takeWhile Char.isDigit, cs.dropWhile Char.isDigit)

/-- The exponent, where digits follow its letter. -/
def takeExponent (cs : List Char) : Option Int × List Char :=
  let ofDigits (negative : Bool) (rest : List Char) : Option Int × List Char :=
    match takeDigits rest with
    | ([], _) => (none, cs)
    | (digits, rest) =>
        let n : Int := Text.digitsValue digits
        (some (if negative then -n else n), rest)
  match cs with
  | 'e' :: '-' :: rest | 'E' :: '-' :: rest => ofDigits true rest
  | 'e' :: '+' :: rest | 'E' :: '+' :: rest => ofDigits false rest
  | 'e' :: rest | 'E' :: rest => ofDigits false rest
  | _ => (none, cs)

def wholeOf? (sign : Sign) (digits : List Char) : Option Document :=
  let n : Int := Text.digitsValue digits
  let n := if sign = .minus then -n else n
  if -9223372036854775808 ≤ n ∧ n < 9223372036854775808 then some (integer n) else none

def realOf? (sign : Sign) (whole fraction : List Char) (exponent : Int) : Option Document :=
  (Binary64.ofDecimal? (sign == .minus) (Text.digitsValue (whole ++ fraction))
    (exponent - fraction.length)).map real

def hexOf? (sign : Sign) (digits : List Char) : Option Document :=
  match sign, Text.hexNumber? digits with
  | .none, some n => if n < UInt32.size then some (integer n) else none
  | _, _ => none

/-- A number in decimal digits, at least one of them before or behind the point. -/
def takeDecimal (sign : Sign) (cs : List Char) : Option (Document × List Char) :=
  let (whole, afterWhole) := takeDigits cs
  if whole.head? = some '0' ∧ whole ≠ ['0'] then none
  else
    match afterWhole with
    | '.' :: rest =>
        let (fraction, rest) := takeDigits rest
        if whole = [] ∧ fraction = [] then none
        else
          let (exponent, rest) := takeExponent rest
          (realOf? sign whole fraction (exponent.getD 0)).map (·, rest)
    | rest =>
        if whole = [] then none
        else
          match takeExponent rest with
          | (some exponent, rest) => (realOf? sign whole [] exponent).map (·, rest)
          | (none, rest) => (wholeOf? sign whole).map (·, rest)

/-- A number without its sign. The two numbers without a value may have a minus, but no plus. -/
def takeUnsigned (sign : Sign) : List Char → Option (Document × List Char)
  | 'I' :: 'n' :: 'f' :: 'i' :: 'n' :: 'i' :: 't' :: 'y' :: cs
  | 'N' :: 'a' :: 'N' :: cs => if sign = .plus then none else some (null, cs)
  | '0' :: 'x' :: cs | '0' :: 'X' :: cs =>
      let isHex := fun c => (Text.hexDigit? c).isSome
      if cs.takeWhile isHex = [] then none
      else (hexOf? sign (cs.takeWhile isHex)).map (·, cs.dropWhile isHex)
  | cs => takeDecimal sign cs

def takeNumber : List Char → Option (Document × List Char)
  | '+' :: cs => takeUnsigned .plus cs
  | '-' :: cs => takeUnsigned .minus cs
  | cs => takeUnsigned .none cs

/-- A value that holds no others. -/
def takeLeaf : List Char → Option (Document × List Char)
  | 'n' :: 'u' :: 'l' :: 'l' :: cs => some (null, cs)
  | 't' :: 'r' :: 'u' :: 'e' :: cs => some (bool true, cs)
  | 'f' :: 'a' :: 'l' :: 's' :: 'e' :: cs => some (bool false, cs)
  | '"' :: cs => (takeText '"' (cs.length + 1) cs).map fun r => (text (String.ofList r.1), r.2)
  | '\'' :: cs => (takeText '\'' (cs.length + 1) cs).map fun r => (text (String.ofList r.1), r.2)
  | cs => takeNumber cs

/-- The colon behind a name. -/
def takeColon (cs : List Char) : Option (List Char) := do
  match ← skip cs with
  | ':' :: cs => skip cs
  | _ => none

mutual
/-- Reads a value off the front; the first argument bounds the steps. -/
def takeValue : Nat → List Char → Option (Document × List Char)
  | 0, _ => none
  | steps + 1, '[' :: cs => do
      match ← skip cs with
      | ']' :: cs => some (list [], cs)
      | cs => (takeItems steps cs).map fun r => (list r.1, r.2)
  | steps + 1, '{' :: cs => do
      match ← skip cs with
      | '}' :: cs => some (record [], cs)
      | cs => (takeMembers steps cs).map fun r => (record r.1, r.2)
  | _ + 1, cs => takeLeaf cs
def takeItems : Nat → List Char → Option (List Document × List Char)
  | 0, _ => none
  | steps + 1, cs => do
      let (item, cs) ← takeValue steps cs
      match ← skip cs with
      | ']' :: cs => some ([item], cs)
      | ',' :: cs =>
          match ← skip cs with
          | ']' :: cs => some ([item], cs)
          | cs => (takeItems steps cs).map fun r => (item :: r.1, r.2)
      | _ => none
def takeMembers : Nat → List Char → Option (List (String × Document) × List Char)
  | 0, _ => none
  | steps + 1, cs => do
      let (name, cs) ← takeName cs
      let cs ← takeColon cs
      let (value, cs) ← takeValue steps cs
      match ← skip cs with
      | '}' :: cs => some ([(name, value)], cs)
      | ',' :: cs =>
          match ← skip cs with
          | '}' :: cs => some ([(name, value)], cs)
          | cs => (takeMembers steps cs).map fun r => ((name, value) :: r.1, r.2)
      | _ => none
end

end Json5

/-- Reads one value, with blanks and comments around it. -/
def ofJson5Chars? (cs : List Char) : Option Document := do
  let cs ← Json5.skip cs
  let (d, rest) ← Json5.takeValue (2 * cs.length + 2) cs
  if (← Json5.skip rest) = [] then some d.normalise else none

def ofJson5? (s : String) : Option Document := ofJson5Chars? s.toList

end Allotment.Document
