import Allotment.Decimal.Shortest
import Allotment.Document

/-!
# The written form of documents

Documents are written as JSON, either on one line or with every item and member on a line of
its own, two blanks deeper than what it belongs to. In a text only the quotation mark, the
backslash and the control characters below the blank are escaped.
-/

namespace Allotment.Document

/-- The letter that stands for a control character behind a backslash. -/
def escapeLetter? : Char → Option Char
  | '"' => some '"'
  | '\\' => some '\\'
  | '\x08' => some 'b'
  | '\t' => some 't'
  | '\n' => some 'n'
  | '\x0c' => some 'f'
  | '\r' => some 'r'
  | _ => none

def escape (c : Char) : List Char :=
  match escapeLetter? c with
  | some letter => ['\\', letter]
  | none =>
      if c.toNat < 0x20 then
        ['\\', 'u', '0', '0', Nat.digitChar (c.toNat / 16), Nat.digitChar (c.toNat % 16)]
      else [c]

def quote (s : String) : List Char :=
  '"' :: s.toList.flatMap escape ++ ['"']

def writeInteger (n : Int) : List Char :=
  if n < 0 then '-' :: Nat.toDigits 10 n.natAbs else Nat.toDigits 10 n.natAbs

/-- The values that hold no others. -/
def writeLeaf : Document → List Char
  | bool true => ['t', 'r', 'u', 'e']
  | bool false => ['f', 'a', 'l', 's', 'e']
  | integer n => writeInteger n
  | real x => x.write
  | text s => quote s
  | _ => ['n', 'u', 'l', 'l']

mutual
def writeChars : Document → List Char
  | list items => '[' :: writeItems items ++ [']']
  | record members => '{' :: writeMembers members ++ ['}']
  | d => writeLeaf d
termination_by structural d => d
def writeItems : List Document → List Char
  | [] => []
  | [d] => writeChars d
  | d :: ds => writeChars d ++ ',' :: writeItems ds
termination_by structural ds => ds
def writeMembers : List (String × Document) → List Char
  | [] => []
  | [(name, d)] => quote name ++ ':' :: writeChars d
  | (name, d) :: ms => quote name ++ ':' :: writeChars d ++ ',' :: writeMembers ms
termination_by structural ms => ms
end

/-- The written form on one line, without blanks. -/
def write (d : Document) : String := String.ofList (writeChars d)

/-- A new line, and two blanks for every level. -/
def lineBreak (level : Nat) : List Char := '\n' :: List.replicate (2 * level) ' '

mutual
def layChars (level : Nat) : Document → List Char
  | list [] => ['[', ']']
  | list items => '[' :: layItems (level + 1) items ++ lineBreak level ++ [']']
  | record [] => ['{', '}']
  | record members => '{' :: layMembers (level + 1) members ++ lineBreak level ++ ['}']
  | d => writeLeaf d
termination_by structural d => d
def layItems (level : Nat) : List Document → List Char
  | [] => []
  | [d] => lineBreak level ++ layChars level d
  | d :: ds => lineBreak level ++ layChars level d ++ ',' :: layItems level ds
termination_by structural ds => ds
def layMembers (level : Nat) : List (String × Document) → List Char
  | [] => []
  | [(name, d)] => lineBreak level ++ quote name ++ ':' :: ' ' :: layChars level d
  | (name, d) :: ms =>
      lineBreak level ++ quote name ++ ':' :: ' ' :: layChars level d ++ ',' :: layMembers level ms
termination_by structural ms => ms
end

/-- The written form over several lines. -/
def lay (d : Document) : String := String.ofList (layChars 0 d)

end Allotment.Document
