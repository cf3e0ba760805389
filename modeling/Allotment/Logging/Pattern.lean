/-!
# Patterns

A filter may compare a field with a pattern, a regular expression. Before any text is matched it
must be settled whether the pattern can be used at all, and this module says so for patterns as
trees. A pattern speaks of characters, or where it says so of bytes; since only well-formed texts
are matched, nothing in it may stand for a byte that is no character. The bounds of words cannot
be asked for among characters, and a tree may be 250 levels deep.
-/

namespace Allotment

namespace Pattern

/-- The ways to read a pattern that may be switched on and off inside it. -/
inductive Flag where
  | ignoreCase
  | multiLine
  | dotMeetsLineEnd
  | swapGreed
  | unicode
  | carriageReturn
  | spaced
  deriving DecidableEq, Repr

/-- The letter of a flag. -/
def Flag.ofChar? : Char → Option Flag
  | 'i' => some .ignoreCase
  | 'm' => some .multiLine
  | 's' => some .dotMeetsLineEnd
  | 'U' => some .swapGreed
  | 'u' => some .unicode
  | 'R' => some .carriageReturn
  | 'x' => some .spaced
  | _ => none

/-- The flags that are switched on and those that are switched off. -/
structure FlagChanges where
  on : List Flag
  off : List Flag
  deriving DecidableEq, Repr

namespace FlagChanges

def none : FlagChanges := ⟨[], []⟩

def mentions (changes : FlagChanges) (flag : Flag) : Bool :=
  changes.on.contains flag || changes.off.contains flag

/-- The flag behind the changes. -/
def apply (changes : FlagChanges) (flag : Flag) (before : Bool) : Bool :=
  if changes.on.contains flag then true
  else if changes.off.contains flag then false
  else before

end FlagChanges

/-- A character that stands for itself; it may be given as a byte. -/
structure Literal where
  char : Char
  isByte : Bool
  deriving DecidableEq, Repr

def Literal.isAscii (l : Literal) : Bool := l.char.toNat < 0x80

/-- A set of characters. -/
inductive CharSet where
  | literal (l : Literal)
  | range (first last : Literal)
  /-- Digits, blanks, word characters or the like, or all others. -/
  | kind (negated : Bool)
  /-- The characters of a general category, or all others. -/
  | category
  | bracketed (negated : Bool) (set : CharSet)
  | union (sets : List CharSet)
  /-- What is in both sets, or in one of them only. -/
  | combined (left right : CharSet)
  deriving Repr

namespace CharSet

/-- The union of the sets between two brackets. -/
def ofList : List CharSet → CharSet
  | [set] => set
  | sets => union sets

mutual
def depth : CharSet → Nat
  | bracketed _ set => depth set + 1
  | union [] => 0
  | union sets => depthOfList sets + 1
  | combined left right => max (depth left) (depth right) + 1
  | _ => 0
termination_by structural set => set
def depthOfList : List CharSet → Nat
  | [] => 0
  | set :: sets => max (depth set) (depthOfList sets)
termination_by structural sets => sets
end

mutual
/-- Nothing in the set is beyond ASCII, not even if its characters are bytes. -/
def isAscii : CharSet → Bool
  | literal l => l.isAscii
  | range first last => first.isAscii && last.isAscii
  | kind negated => !negated
  | category => false
  | bracketed negated set => !negated && isAscii set
  | union sets => areAscii sets
  | combined left right => isAscii left && isAscii right
termination_by structural set => set
def areAscii : List CharSet → Bool
  | [] => true
  | set :: sets => isAscii set && areAscii sets
termination_by structural sets => sets
end

end CharSet

end Pattern

/-- A pattern as a tree. Of what it would match the tree keeps only what decides its use. -/
inductive Pattern where
  | empty
  /-- Changes flags for what follows in the same group. -/
  | flags (changes : Pattern.FlagChanges)
  | literal (l : Pattern.Literal)
  | dot
  /-- The start or the end of a line, a text or, where `ofWord` holds, a word. -/
  | anchor (ofWord : Bool)
  | chars (set : Pattern.CharSet)
  | repeated (p : Pattern)
  /-- A group with flags of its own. -/
  | group (changes : Pattern.FlagChanges) (p : Pattern)
  | alternatives (ps : List Pattern)
  | sequence (ps : List Pattern)
  deriving Repr

namespace Pattern

def ofParts : List Pattern → Pattern
  | [] => empty
  | [p] => p
  | ps => sequence ps

def ofBranches : List Pattern → Pattern
  | [p] => p
  | ps => alternatives ps

/-- There is something to repeat. -/
def isRepeatable : Pattern → Bool
  | empty | flags _ => false
  | _ => true

mutual
def depth : Pattern → Nat
  | chars s => s.depth
  | repeated p => depth p + 1
  | group _ p => depth p + 1
  | alternatives ps => depthOfList ps + 1
  | sequence ps => depthOfList ps + 1
  | _ => 0
termination_by structural p => p
def depthOfList : List Pattern → Nat
  | [] => 0
  | p :: ps => max (depth p) (depthOfList ps)
termination_by structural ps => ps
end

mutual
/-- Whether characters are spoken of behind the pattern, if it can be used where they are or are
not spoken of before it. Flags hold up to the end of their group. -/
def modeBehind? (unicode : Bool) : Pattern → Option Bool
  | empty => some unicode
  | flags changes => some (changes.apply .unicode unicode)
  | literal l => if unicode || !l.isByte || l.isAscii then some unicode else none
  | dot => if unicode then some unicode else none
  | anchor ofWord => if unicode && ofWord then none else some unicode
  | chars s => if unicode || s.isAscii then some unicode else none
  | repeated p => modeBehind? unicode p
  | group changes p => (modeBehind? (changes.apply .unicode unicode) p).map fun _ => unicode
  | alternatives ps => modeBehindAll? unicode ps
  | sequence ps => modeBehindAll? unicode ps
termination_by structural p => p
def modeBehindAll? (unicode : Bool) : List Pattern → Option Bool
  | [] => some unicode
  | p :: ps =>
      match modeBehind? unicode p with
      | some behind => modeBehindAll? behind ps
      | none => none
termination_by structural ps => ps
end

/-- The deepest that a pattern may be. -/
def maxDepth : Nat := 250

/-- The pattern can be used. It begins among characters. -/
def isUsable (p : Pattern) : Bool :=
  p.depth ≤ maxDepth && (modeBehind? true p).isSome

end Pattern

end Allotment
