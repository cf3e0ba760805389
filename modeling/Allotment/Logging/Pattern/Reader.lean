import Allotment.Logging.Pattern
import Allotment.Text.Alphanumeric
import Allotment.Text.Blank
import Allotment.Text.CodePoint

/-!
# Reading patterns

Patterns are read by the usual grammar: branches between bars, groups in parentheses, sets in
brackets, and the marks `?`, `*` and `+` behind what they repeat. Looking around, references back
and repetitions counted between braces that are not closed are refused. Where the flag for it is
on, blanks and comments are passed over.
-/

namespace Allotment.Pattern

/-- Passes blanks, and comments that run to the end of their line. The first argument tells
whether the characters begin inside a comment. -/
def dropSpace : Bool → List Char → List Char
  | _, [] => []
  | true, c :: cs => dropSpace (c != '\n') cs
  | false, c :: cs =>
      if c = '#' then dropSpace true cs
      else if Text.isBlank c then dropSpace false cs
      else c :: cs

/-- Passes what does not count where patterns are spaced. -/
def pass (spaced : Bool) (cs : List Char) : List Char :=
  if spaced then dropSpace false cs else cs

/-! ## Escapes -/

/-- What may stand for itself, in a set or outside. -/
inductive Primitive where
  | literal (l : Literal)
  | chars (set : CharSet)
  | anchor (ofWord : Bool)

def verbatim (c : Char) : Literal := ⟨c, false⟩

/-- So many hexadecimal digits. -/
def takeHexDigits (spaced : Bool) : Nat → List Char → Option (List Char × List Char)
  | 0, cs => some ([], cs)
  | n + 1, cs =>
      match pass spaced cs with
      | c :: cs =>
          if (Text.hexDigit? c).isSome then
            (takeHexDigits spaced n cs).map fun r => (c :: r.1, r.2)
          else none
      | [] => none

/-- The character with a code point in so many digits; two digits give a byte. -/
def takeCode (spaced : Bool) (digits : Nat) (cs : List Char) : Option (Primitive × List Char) := do
  let (code, cs) ← takeHexDigits spaced digits cs
  let n ← Text.hexNumber? code
  if n < 0x110000 ∧ !Text.isHighHalf n ∧ !Text.isLowHalf n then
    some (.literal ⟨Char.ofNat n, digits == 2⟩, cs)
  else none

/-- The letters of the general categories, in either case. -/
def categoryLetters : List Char := ['C', 'L', 'M', 'N', 'P', 'S', 'Z']

def takeCategory (spaced : Bool) (cs : List Char) : Option (Primitive × List Char) :=
  match pass spaced cs with
  | c :: cs => if categoryLetters.contains c.toUpper then some (.chars .category, cs) else none
  | [] => none

/-- What one letter or sign behind a backslash stands for. Signs stand for themselves; letters and
digits that have no meaning are refused. -/
def primitiveOf? (c : Char) : Option Primitive :=
  match c with
  | 'd' | 's' | 'w' => some (.chars (.kind false))
  | 'D' | 'S' | 'W' => some (.chars (.kind true))
  | 'A' | 'z' => some (.anchor false)
  | 'b' | 'B' | '<' | '>' => some (.anchor true)
  | 'a' => some (.literal (verbatim '\x07'))
  | 'f' => some (.literal (verbatim '\x0c'))
  | 'n' => some (.literal (verbatim '\n'))
  | 'r' => some (.literal (verbatim '\r'))
  | 't' => some (.literal (verbatim '\t'))
  | 'v' => some (.literal (verbatim '\x0b'))
  | c => if c.toNat < 0x80 ∧ !c.isAlphanum then some (.literal (verbatim c)) else none

/-- What stands behind a backslash. -/
def takeEscape (spaced : Bool) : List Char → Option (Primitive × List Char)
  | 'x' :: cs => takeCode spaced 2 cs
  | 'u' :: cs => takeCode spaced 4 cs
  | 'U' :: cs => takeCode spaced 8 cs
  | 'p' :: cs | 'P' :: cs => takeCategory spaced cs
  | c :: cs => (primitiveOf? c).map (·, cs)
  | [] => none

/-! ## Sets in brackets -/

/-- The sets that are given by name between two colons. -/
def setNames : List String :=
  ["alnum", "alpha", "ascii", "blank", "cntrl", "digit", "graph", "lower", "print", "punct",
   "space", "upper", "word", "xdigit"]

/-- A set by name, behind the bracket and the colon. -/
def takeNamed (cs : List Char) : Option (CharSet × List Char) :=
  let (negated, cs) := match cs with
    | '^' :: cs => (true, cs)
    | cs => (false, cs)
  match cs.dropWhile (· != ':') with
  | ':' :: ']' :: rest =>
      if setNames.contains (String.ofList (cs.takeWhile (· != ':'))) then
        some (.kind negated, rest)
      else none
  | _ => none

/-- One member of a set, or one end of a range. -/
def takeMember (spaced : Bool) : List Char → Option (Primitive × List Char)
  | '\\' :: cs => takeEscape spaced cs
  | c :: cs => some (.literal (verbatim c), cs)
  | [] => none

def setOf? : Primitive → Option CharSet
  | .literal l => some (.literal l)
  | .chars s => some s
  | .anchor _ => none

/-- The character that comes next, blanks and the sign of a comment passed where patterns are
spaced. -/
def peek? (spaced : Bool) (cs : List Char) : Option Char :=
  if spaced then
    match cs.dropWhile Text.isBlank with
    | '#' :: rest => (rest.dropWhile Text.isBlank).head?.or cs.head?
    | rest => rest.head?.or cs.head?
  else cs.head?

/-- The end of a range, behind the dash. -/
def takeRangeEnd (spaced : Bool) (first : Primitive) (cs : List Char) :
    Option (CharSet × List Char) := do
  let (last, cs) ← takeMember spaced (pass spaced cs)
  match first, last with
  | .literal first, .literal last =>
      if first.char ≤ last.char then some (.range first last, cs) else none
  | _, _ => none

/-- A member or a range. A dash before a bracket or another dash makes no range. -/
def takeRange (spaced : Bool) (cs : List Char) : Option (CharSet × List Char) := do
  let (first, cs) ← takeMember spaced cs
  match pass spaced cs with
  | '-' :: rest =>
      let next := peek? spaced rest
      if next = some ']' ∨ next = some '-' then (setOf? first).map (·, '-' :: rest)
      else takeRangeEnd spaced first rest
  | rest => (setOf? first).map (·, rest)

/-- The dashes that a set begins with; the number bounds the steps. -/
def takeDashes (spaced : Bool) : Nat → List Char → List CharSet × List Char
  | steps + 1, '-' :: cs =>
      let (dashes, cs) := takeDashes spaced steps (pass spaced cs)
      (.literal (verbatim '-') :: dashes, cs)
  | _, cs => ([], cs)

/-- Puts the members read behind the last sign that combines sets to what stands before it. -/
def close (left : Option CharSet) (reversed : List CharSet) : CharSet :=
  match left with
  | some left => .combined left (.ofList reversed.reverse)
  | none => .ofList reversed.reverse

mutual
/-- A set behind its opening bracket; the number bounds the steps. A closing bracket that comes
first is a member. -/
def takeSet (spaced : Bool) : Nat → List Char → Option (CharSet × List Char)
  | 0, _ => none
  | steps + 1, cs => do
      let (negated, cs) := match pass spaced cs with
        | '^' :: cs => (true, pass spaced cs)
        | cs => (false, cs)
      let (set, cs) ← match takeDashes spaced cs.length cs with
        | ([], ']' :: cs) => takeMembers spaced steps none [.literal (verbatim ']')] cs
        | (dashes, cs) => takeMembers spaced steps none dashes cs
      some (.bracketed negated set, cs)
def takeMembers (spaced : Bool) : Nat → Option CharSet → List CharSet → List Char →
    Option (CharSet × List Char)
  | 0, _, _, _ => none
  | steps + 1, left, members, cs =>
      match pass spaced cs with
      | [] => none
      | '[' :: cs =>
          let named := match cs with
            | ':' :: cs => takeNamed cs
            | _ => none
          match named with
          | some (set, cs) => takeMembers spaced steps left (set :: members) cs
          | none => do
              let (set, cs) ← takeSet spaced steps cs
              takeMembers spaced steps left (set :: members) cs
      | ']' :: cs => some (close left members, cs)
      | '&' :: '&' :: cs | '-' :: '-' :: cs | '~' :: '~' :: cs =>
          takeMembers spaced steps (some (close left members)) [] cs
      | cs => do
          let (set, cs) ← takeRange spaced cs
          takeMembers spaced steps left (set :: members) cs
end

/-! ## Groups -/

/-- What stands behind an opening parenthesis: flags that are closed at once, or the flags and
the name of a group. -/
inductive GroupHead where
  | flags (changes : FlagChanges)
  | group (changes : FlagChanges) (name : Option String)

/-- Flags up to a colon or a closing parenthesis. A dash switches off what follows it; there may
be one, and it may not come last. -/
def takeFlags (changes : FlagChanges) (negated dangling : Bool) :
    List Char → Option (FlagChanges × Char × List Char)
  | [] => none
  | c :: cs =>
      if c = ':' ∨ c = ')' then if dangling then none else some (changes, c, cs)
      else if c = '-' then if negated then none else takeFlags changes true true cs
      else
        match Flag.ofChar? c with
        | some flag =>
            if changes.mentions flag then none
            else if negated then
              takeFlags { changes with off := flag :: changes.off } negated false cs
            else takeFlags { changes with on := flag :: changes.on } negated false cs
        | none => none

def takeFlagHead (cs : List Char) : Option (GroupHead × List Char) := do
  match ← takeFlags .none false false cs with
  | (changes, ':', cs) => some (.group changes none, cs)
  | (changes, _, cs) => if changes = .none then none else some (.flags changes, cs)

def startsName (c : Char) : Bool := c == '_' || Text.isAlphabetic c

def continuesName (c : Char) : Bool :=
  c == '_' || c == '.' || c == '[' || c == ']' || Text.isAlphanumeric c

/-- The name of a group, up to the sign that closes it. -/
def takeGroupName (cs : List Char) : Option (GroupHead × List Char) :=
  match cs.takeWhile (· != '>'), cs.dropWhile (· != '>') with
  | c :: name, '>' :: rest =>
      if startsName c && name.all continuesName then
        some (.group .none (some (String.ofList (c :: name))), rest)
      else none
  | _, _ => none

def takeGroupHead (spaced : Bool) (cs : List Char) : Option (GroupHead × List Char) :=
  match pass spaced cs with
  | '?' :: '=' :: _ | '?' :: '!' :: _ | '?' :: '<' :: '=' :: _ | '?' :: '<' :: '!' :: _ => none
  | '?' :: 'P' :: '<' :: cs | '?' :: '<' :: cs => takeGroupName cs
  | '?' :: cs => takeFlagHead cs
  | cs => some (.group .none none, cs)

/-! ## Whole patterns -/

/-- Where a reader stands: what is left, whether the pattern is spaced, and the names of the
groups so far. -/
structure Cursor where
  rest : List Char
  spaced : Bool
  names : List String

namespace Cursor

/-- Adds the name of a group, which no other group may have. -/
def enter? (cursor : Cursor) (changes : FlagChanges) (name : Option String) (rest : List Char) :
    Option Cursor :=
  let spaced := changes.apply .spaced cursor.spaced
  match name with
  | some name =>
      if cursor.names.contains name then none else some ⟨rest, spaced, name :: cursor.names⟩
  | none => some ⟨rest, spaced, cursor.names⟩

end Cursor

/-- A mark behind a sign of repetition makes it lazy. -/
def dropLazyMark : List Char → List Char
  | '?' :: cs => cs
  | cs => cs

/-- A character or an escape outside of sets. -/
def takePrimitive (spaced : Bool) : List Char → Option (Pattern × List Char)
  | '\\' :: cs => do
      match ← takeEscape spaced cs with
      | (.literal l, cs) => some (literal l, cs)
      | (.chars s, cs) => some (chars s, cs)
      | (.anchor ofWord, cs) => some (anchor ofWord, cs)
  | '.' :: cs => some (dot, cs)
  | '^' :: cs | '$' :: cs => some (anchor false, cs)
  | '{' :: _ => none
  | c :: cs => some (literal (verbatim c), cs)
  | [] => none

mutual
/-- Branches up to the end of their group; the number bounds the steps. -/
def takeBranches : Nat → Cursor → Option (List Pattern × Cursor)
  | 0, _ => none
  | steps + 1, cursor => do
      let (p, cursor) ← takeParts steps [] cursor
      match cursor.rest with
      | '|' :: rest =>
          let (ps, cursor) ← takeBranches steps { cursor with rest }
          some (p :: ps, cursor)
      | _ => some ([p], cursor)
/-- The parts of a branch, put to those that were read before them. -/
def takeParts : Nat → List Pattern → Cursor → Option (Pattern × Cursor)
  | 0, _, _ => none
  | steps + 1, before, cursor =>
      match pass cursor.spaced cursor.rest with
      | [] => some (ofParts before.reverse, { cursor with rest := [] })
      | '|' :: rest => some (ofParts before.reverse, { cursor with rest := '|' :: rest })
      | ')' :: rest => some (ofParts before.reverse, { cursor with rest := ')' :: rest })
      | '(' :: rest => do
          match ← takeGroupHead cursor.spaced rest with
          | (.flags changes, rest) =>
              let spaced := changes.apply .spaced cursor.spaced
              takeParts steps (flags changes :: before) { cursor with rest, spaced }
          | (.group changes name, rest) =>
              let inside ← cursor.enter? changes name rest
              let (branches, inside) ← takeBranches steps inside
              match inside.rest with
              | ')' :: rest =>
                  takeParts steps (group changes (ofBranches branches) :: before)
                    { cursor with rest, names := inside.names }
              | _ => none
      | '[' :: rest => do
          let (s, rest) ← takeSet cursor.spaced (2 * rest.length + 2) rest
          takeParts steps (chars s :: before) { cursor with rest }
      | '?' :: rest | '*' :: rest | '+' :: rest =>
          match before with
          | p :: before =>
              if p.isRepeatable then
                takeParts steps (repeated p :: before) { cursor with rest := dropLazyMark rest }
              else none
          | [] => none
      | rest => do
          let (p, rest) ← takePrimitive cursor.spaced rest
          takeParts steps (p :: before) { cursor with rest }
end

/-- Reads a whole pattern. -/
def ofChars? (cs : List Char) : Option Pattern := do
  let (branches, cursor) ← takeBranches (2 * cs.length + 2) ⟨cs, false, []⟩
  if cursor.rest = [] then some (ofBranches branches) else none

end Allotment.Pattern
