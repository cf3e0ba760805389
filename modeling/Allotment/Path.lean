/-!
# Paths

A path is a text of names between slashes; a leading slash starts at the root. Empty names and
single dots inside a path stand for nothing. A path is kept as it is written: joining puts two
texts together, and the parent of a path is its text without the last name.
-/

namespace Allotment.Path

/-- The names of a path, with the empty ones and the dots. -/
def segments (cs : List Char) : List (List Char) :=
  match cs with
  | [] => [[]]
  | '/' :: rest => [] :: segments rest
  | c :: rest =>
      match segments rest with
      | [] => [[c]]
      | name :: names => (c :: name) :: names

def isAbsolute (path : String) : Bool := path.toList.head? == some '/'

/-- The second path as seen from the first one; an absolute one stands for itself. -/
def join (base path : String) : String :=
  if isAbsolute path || base = "" then path
  else if base.toList.getLast? = some '/' then base ++ path
  else base ++ "/" ++ path

/-- The name stands for nothing where it follows another one. -/
def isIdle (name : List Char) : Bool := name == [] || name == ['.']

/-- The start of a path that no name is taken from: the root, or a leading dot. -/
def anchor : List Char → List Char
  | '/' :: _ => ['/']
  | ['.'] => ['.']
  | '.' :: '/' :: _ => ['.']
  | _ => []

/-- The path without its last name and what stands for nothing before it; the names are given in
reverse. None if only such names are left. -/
def withoutLast (reversed : List (List Char)) : Option (List (List Char)) :=
  match reversed.dropWhile isIdle with
  | [] => none
  | _ :: names => some (names.dropWhile isIdle)

/-- Puts names given in reverse together. -/
def ofReversed (reversed : List (List Char)) : List Char :=
  List.intercalate ['/'] reversed.reverse

/-- The path of what holds the last name; none for the root and for the empty path. -/
def parent? (path : String) : Option String :=
  let start := anchor path.toList
  let body := path.toList.drop start.length
  match withoutLast (segments body).reverse, start with
  | some names, _ => some (String.ofList (start ++ ofReversed names))
  | none, ['.'] => some ""
  | none, _ => none

/-- A path, its parent, the parent of that and so on, as long as there is a parent that is not
empty; the number bounds how many. -/
def ancestorsUpTo : Nat → String → List String
  | 0, _ => []
  | n + 1, path =>
      match parent? path with
      | some above => path :: if above = "" then [] else ancestorsUpTo n above
      | none => []

/-- A path and all above it but the root. Every parent is a shorter text. -/
def ancestors (path : String) : List String := ancestorsUpTo path.length path

end Allotment.Path
