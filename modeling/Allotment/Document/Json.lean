import Allotment.Document
import Allotment.Text.CodePoint
import Allotment.Text.Numeral

/-!
# Reading JSON

The reader takes the strict grammar: no comments, no trailing commas, blanks only of the four
kinds, nothing but blanks behind the value. Whole numbers from `-2^63` to `2^64 - 1` are kept
as such, save `-0`; all others become binary64 numbers. A text with half of a surrogate pair, a
number beyond the binary64 range and a record with an illegible name are illegible.
-/

namespace Allotment.Document

namespace Json

def isBlank (c : Char) : Bool :=
  c == ' ' || c == '\n' || c == '\r' || c == '\t'

def skipBlanks (cs : List Char) : List Char := cs.dropWhile isBlank

/-- The character that a letter behind a backslash stands for. -/
def unescape? : Char → Option Char
  | '"' => some '"'
  | '\\' => some '\\'
  | '/' => some '/'
  | 'b' => some '\x08'
  | 'f' => some '\x0c'
  | 'n' => some '\n'
  | 'r' => some '\r'
  | 't' => some '\t'
  | _ => none

/-- Puts a number before those that were read behind it. -/
def prepend (n : Nat) (result : Option (List Nat × List Char)) : Option (List Nat × List Char) :=
  result.map fun r => (n :: r.1, r.2)

/-- Reads the inside of a text up to its closing mark: the numbers of its characters, and of the
halves of pairs that are escaped. -/
def takeCodes : List Char → Option (List Nat × List Char)
  | [] => none
  | '"' :: cs => some ([], cs)
  | '\\' :: 'u' :: a :: b :: c :: d :: cs =>
      match Text.hexNumber? [a, b, c, d] with
      | some n => prepend n (takeCodes cs)
      | none => none
  | '\\' :: c :: cs =>
      match unescape? c with
      | some d => prepend d.toNat (takeCodes cs)
      | none => none
  | c :: cs => if c.toNat < 0x20 ∨ c = '\\' then none else prepend c.toNat (takeCodes cs)

/-- What is left of a text that has been read: its characters, or none where it is illegible. -/
abbrev Contents := Option (List Char)

def takeText (cs : List Char) : Option (Contents × List Char) :=
  (takeCodes cs).map fun r => (Text.charsOfCodes? r.1, r.2)

/-- One or more digits off the front. -/
def takeDigits (cs : List Char) : Option (List Char × List Char) :=
  if cs.takeWhile Char.isDigit = [] then none
  else some (cs.takeWhile Char.isDigit, cs.dropWhile Char.isDigit)

/-- The digits behind a point, where there is one. -/
def takeFraction : List Char → Option (List Char × List Char)
  | '.' :: cs => takeDigits cs
  | cs => some ([], cs)

def takeSignedExponent : List Char → Option (Int × List Char)
  | '-' :: cs => (takeDigits cs).map fun r => (-(Text.digitsValue r.1 : Int), r.2)
  | '+' :: cs => (takeDigits cs).map fun r => ((Text.digitsValue r.1 : Int), r.2)
  | cs => (takeDigits cs).map fun r => ((Text.digitsValue r.1 : Int), r.2)

/-- The exponent, where there is one. -/
def takeExponent : List Char → Option (Option Int × List Char)
  | 'e' :: cs | 'E' :: cs => (takeSignedExponent cs).map fun r => (some r.1, r.2)
  | cs => some (none, cs)

/-- A number with a point or an exponent, or one too great to be kept whole. -/
def realOf (negative : Bool) (whole fraction : List Char) (exponent : Int) : Document :=
  match Binary64.ofDecimal? negative (Text.digitsValue (whole ++ fraction))
      (exponent - fraction.length) with
  | some x => real x
  | none => illegible

def wholeOf (negative : Bool) (digits : List Char) : Document :=
  let n := Text.digitsValue digits
  if negative then
    if n = 0 ∨ 9223372036854775808 < n then realOf true digits [] 0 else integer (-n)
  else if n < UInt64.size then integer n
  else realOf false digits [] 0

def takeUnsigned (negative : Bool) (cs : List Char) : Option (Document × List Char) := do
  let (whole, cs) ← takeDigits cs
  if whole.head? = some '0' ∧ whole ≠ ['0'] then none
  let (fraction, afterFraction) ← takeFraction cs
  let (exponent, rest) ← takeExponent afterFraction
  if fraction = [] ∧ exponent = none then some (wholeOf negative whole, rest)
  else some (realOf negative whole fraction (exponent.getD 0), rest)

def takeNumber : List Char → Option (Document × List Char)
  | '-' :: cs => takeUnsigned true cs
  | cs => takeUnsigned false cs

/-- The members of a record being read, or none where a name is illegible. -/
def addMember (name : Contents) (value : Document) (members : Option (List (String × Document))) :
    Option (List (String × Document)) :=
  match name, members with
  | some name, some members => some ((String.ofList name, value) :: members)
  | _, _ => none

def ofMembers : Option (List (String × Document)) → Document
  | some members => record members
  | none => illegible

/-- A name and the colon behind it. -/
def takeName (cs : List Char) : Option (Contents × List Char) :=
  match skipBlanks cs with
  | '"' :: cs => do
      let (name, cs) ← takeText cs
      match skipBlanks cs with
      | ':' :: cs => some (name, cs)
      | _ => none
  | _ => none

mutual
/-- Reads a value off the front; the first argument bounds the steps. -/
def takeValue : Nat → List Char → Option (Document × List Char)
  | 0, _ => none
  | steps + 1, cs =>
      match skipBlanks cs with
      | '{' :: cs =>
          match skipBlanks cs with
          | '}' :: cs => some (record [], cs)
          | cs => (takeMembers steps cs).map fun r => (ofMembers r.1, r.2)
      | '[' :: cs =>
          match skipBlanks cs with
          | ']' :: cs => some (list [], cs)
          | cs => (takeItems steps cs).map fun r => (list r.1, r.2)
      | '"' :: cs =>
          (takeText cs).map fun r =>
            (match r.1 with
              | some contents => text (String.ofList contents)
              | none => illegible, r.2)
      | 't' :: 'r' :: 'u' :: 'e' :: cs => some (bool true, cs)
      | 'f' :: 'a' :: 'l' :: 's' :: 'e' :: cs => some (bool false, cs)
      | 'n' :: 'u' :: 'l' :: 'l' :: cs => some (null, cs)
      | cs => takeNumber cs
def takeItems : Nat → List Char → Option (List Document × List Char)
  | 0, _ => none
  | steps + 1, cs => do
      let (item, cs) ← takeValue steps cs
      match skipBlanks cs with
      | ',' :: cs => do
          let (items, cs) ← takeItems steps cs
          some (item :: items, cs)
      | ']' :: cs => some ([item], cs)
      | _ => none
def takeMembers : Nat → List Char → Option (Option (List (String × Document)) × List Char)
  | 0, _ => none
  | steps + 1, cs => do
      let (name, cs) ← takeName cs
      let (value, cs) ← takeValue steps cs
      match skipBlanks cs with
      | ',' :: cs => do
          let (members, cs) ← takeMembers steps cs
          some (addMember name value members, cs)
      | '}' :: cs => some (addMember name value (some []), cs)
      | _ => none
end

end Json

/-- Reads one value with blanks around it. Every two steps consume a character, so the steps
suffice. -/
def ofJsonChars? (cs : List Char) : Option Document :=
  match Json.takeValue (2 * cs.length + 2) cs with
  | some (d, rest) => if Json.skipBlanks rest = [] then some d else none
  | none => none

def ofJson? (s : String) : Option Document := ofJsonChars? s.toList

/-- The deepest that lists and records may stand in each other where all of them are kept. -/
def maxDepth : Nat := 127

/-- Reads a value of which nothing is passed over: everything in it must be legible, and nothing
may stand too deep. -/
def ofJsonWhole? (s : String) : Option Document :=
  (ofJson? s).filter fun d => d.isLegible && d.depth ≤ maxDepth

end Allotment.Document
