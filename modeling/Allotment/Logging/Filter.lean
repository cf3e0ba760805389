import Allotment.Logging.Pattern.Reader
import Allotment.Text.Alphanumeric
import Allotment.Text.Blank
import Allotment.Text.Bytes
import Allotment.Text.LetterCase
import Allotment.Text.Numeral

/-!
# Log filters

A filter is a list of directives between commas; empty ones do not count. A directive names a
level, or a target, a span in square brackets or both, and may set a level for them behind a
sign of equality. In the brackets a field of the span may follow its name between braces, with a
value behind a sign of equality: a number, or a pattern for the text of the field.

A directive is scanned without the blanks around it. Its parts, however, are cut out of the text
with the blanks, at the offsets that the scan found; so behind leading blanks a part begins and
ends too early by as many bytes. A cut that would fall inside a character cannot be made, which
is a fault of its own.
-/

namespace Allotment.LogFilter

inductive Fault where
  | malformed
  /-- A part begins or ends inside a character. -/
  | splitCharacter
  deriving DecidableEq, Repr

def levelWords : List String := ["trace", "debug", "info", "warn", "error", "off"]

/-- The text names a level, by its word in any case of letters or by its number. -/
def isLevel (text : String) : Bool :=
  levelWords.any (Text.sameLetters text) ||
    match Text.natural? text with
    | some n => n ≤ 5
    | none => false

/-! ## Values of fields -/

/-- What stands for a number without digits. -/
def numberWords : List String := ["inf", "infinity", "nan"]

/-- An exponent, or nothing. -/
def isExponent : List Char → Bool
  | [] => true
  | c :: cs =>
      (c == 'e' || c == 'E') &&
        match cs with
        | '+' :: digits | '-' :: digits => (Text.digits? digits).isSome
        | digits => (Text.digits? digits).isSome

/-- Decimal digits with a point among, before or behind them, and an exponent. -/
def isDecimal (cs : List Char) : Bool :=
  let whole := cs.takeWhile Char.isDigit
  match cs.dropWhile Char.isDigit with
  | '.' :: rest =>
      (whole != [] || rest.takeWhile Char.isDigit != []) &&
        isExponent (rest.dropWhile Char.isDigit)
  | rest => whole != [] && isExponent rest

def isUnsignedNumber (cs : List Char) : Bool :=
  isDecimal cs || numberWords.any (Text.sameLetters (String.ofList cs))

def isNumber : List Char → Bool
  | '+' :: cs | '-' :: cs => isUnsignedNumber cs
  | cs => isUnsignedNumber cs

/-- A value is a number or a pattern that can be used. -/
def isValue (cs : List Char) : Bool :=
  isNumber cs ||
    match Pattern.ofChars? cs with
    | some p => p.isUsable
    | none => false

/-- A field is a name, with a value between the first sign of equality and the second one. -/
def isField (cs : List Char) : Bool :=
  match cs.splitOn '=' with
  | _ :: value :: _ => isValue value
  | _ => cs != []

/-! ## Directives -/

/-- Where the scan of a directive stands. Numbers tell at which offset a part begins. -/
inductive Stage where
  | start
  | target
  | span (start : Nat)
  | field (start : Nat)
  | behindField
  | behindSpan
  | level (start : Nat)
  deriving DecidableEq, Repr

def startsTarget (c : Char) : Bool :=
  Text.isAlphanumeric c || c == '-' || c == ':' || c == '_'

/-- Cuts a part out of the directive as it was written. -/
def part (written : List Char) (start stop : Nat) : Except Fault (List Char) :=
  match Text.slice? start stop written with
  | some cs => .ok cs
  | none => .error .splitCharacter

/-- Passes a part, of which nothing is asked, to the next stage. -/
def passPart (written : List Char) (start stop : Nat) (next : Stage) : Except Fault Stage :=
  (part written start stop).map fun _ => next

/-- Passes a field, which must be well formed. -/
def passField (written : List Char) (start stop : Nat) : Except Fault Stage := do
  if isField (← part written start stop) then return .behindField else throw .malformed

/-- The stage behind a character that stands at an offset. -/
def advance (written : List Char) (stage : Stage) (offset : Nat) (c : Char) :
    Except Fault Stage :=
  match stage, c with
  | .start, '[' => return .span (offset + 1)
  | .start, c => if startsTarget c then return .target else throw .malformed
  | .target, '=' => passPart written 0 offset (.level (offset + 1))
  | .target, '[' => passPart written 0 offset (.span (offset + 1))
  | .target, _ => return .target
  | .span start, ']' => passPart written start offset .behindSpan
  | .span start, '{' => passPart written start offset (.field (offset + 1))
  | .span start, _ => return .span start
  | .field start, '}' => passField written start offset
  | .field start, _ => return .field start
  | .behindField, ']' => return .behindSpan
  | .behindSpan, '=' => return .level (offset + 1)
  | .level start, _ => return .level start
  | .behindField, _ | .behindSpan, _ => throw .malformed

/-- The stage behind the characters that begin at an offset. -/
def scan (written : List Char) (stage : Stage) (offset : Nat) : List Char → Except Fault Stage
  | [] => return stage
  | c :: cs => do scan written (← advance written stage offset c) (offset + c.utf8Size) cs

/-- Whether a directive may end at a stage. A level may be left out behind its sign. -/
def finish (written : List Char) : Stage → Except Fault Unit
  | .target | .behindSpan => return ()
  | .level start => do
      let level ← part written start (Text.byteSize written)
      if level = [] ∨ isLevel (String.ofList level) then return () else throw .malformed
  | _ => throw .malformed

def checkDirective (written : List Char) : Except Fault Unit := do
  finish written (← scan written .start 0 (Text.trimChars written))

/-- The directives of a filter, between its commas. -/
def directives (filter : String) : List (List Char) :=
  (filter.toList.splitOn ',').filter (· != [])

/-- Checks directive after directive up to the first fault. -/
def checkAll : List (List Char) → Except Fault Unit
  | [] => return ()
  | directive :: others => do
      checkDirective directive
      checkAll others

def check (filter : String) : Except Fault Unit := checkAll (directives filter)

end Allotment.LogFilter
