import Allotment.Path

/-!
# Files

What a run asks of the files around it: to read one, to see what is there, to make a directory,
to list and to remove. `FileTree` is such a surrounding held in memory, with a working directory
and a clock, so that a run can be followed without any disk.
-/

namespace Allotment

/-- What stands directly in a directory. Times are nanoseconds since the epoch. -/
structure DirectoryEntry where
  name : String
  isFile : Bool
  modified : Int
  deriving DecidableEq, Repr

/-- What comes of asking for one directory. -/
inductive DirectoryOutcome where
  /-- It was made, or it was there. -/
  | ready
  /-- What it should stand in is not there. -/
  | homeless
  | refused
  deriving DecidableEq, Repr

/-- A monad with files. What cannot be done is answered by none or false. -/
class MonadFiles (m : Type → Type) where
  currentDirectory : m String
  readFile? : String → m (Option String)
  pathExists : String → m Bool
  makeDirectory : String → m DirectoryOutcome
  entriesOf? : String → m (Option (List DirectoryEntry))
  removeFile : String → m Bool
  now : m Int

section
variable {m : Type → Type} [Monad m] [MonadFiles m]

/-- Makes the first of some directories. Where it is homeless, the one behind it is made before,
which should be what it stands in, and then it is tried once more. -/
def makeFirst : List String → m Bool
  | [] => return true
  | path :: above => do
      match ← MonadFiles.makeDirectory path with
      | .ready => return true
      | .refused => return false
      | .homeless =>
          if ← makeFirst above then
            return (← MonadFiles.makeDirectory path) == .ready
          else return false

/-- Makes a directory and those above it that are not there. -/
def makeDirectories (path : String) : m Bool := makeFirst (Path.ancestors path)

end

/-! ## Files in memory -/

inductive FileNode where
  | directory
  | file (text : String) (modified : Int)
  deriving DecidableEq, Repr

/-- The names that lead to a place, the last one first; the root is the empty list. -/
abbrev Location := List String

structure FileTree where
  nodes : List (Location × FileNode)
  current : Location
  clock : Int
  deriving Repr

namespace FileTree

/-- An empty working directory. -/
def empty (current : String) (clock : Int) : FileTree where
  nodes := [([current], .directory)]
  current := [current]
  clock := clock

def node? (t : FileTree) : Location → Option FileNode
  | [] => some .directory
  | place => (t.nodes.find? fun entry => entry.1 == place).map (·.2)

def isDirectory (t : FileTree) (place : Location) : Bool := t.node? place == some .directory

/-- A directory can hold something of this name. -/
def admitsName (name : String) : Bool := name.utf8ByteSize ≤ 255

/-- A path can be followed. -/
def admitsPath (path : String) : Bool :=
  path.utf8ByteSize < 4096 && !path.toList.contains '\x00'

/-- One step from a place: nowhere, up, or to a name. -/
def step (place : Location) (name : String) : Location :=
  if name = "" ∨ name = "." then place
  else if name = ".." then place.drop 1
  else name :: place

/-- Why a path leads nowhere. -/
inductive Obstacle where
  | missing
  /-- A file stands in the way, or a name or the path itself is too long. -/
  | blocked
  deriving DecidableEq, Repr

/-- Follows names from a place. Every name but the last must lead to a directory, and the last
one to something. -/
def follow (t : FileTree) : List String → Location → Except Obstacle Location
  | [], place => if (t.node? place).isSome then .ok place else .error .missing
  | name :: names, place =>
      match t.node? place with
      | none => .error .missing
      | some (.file _ _) => .error .blocked
      | some .directory =>
          if admitsName name then follow t names (step place name) else .error .blocked

def names (path : String) : List String := (Path.segments path.toList).map String.ofList

/-- Where a walk along a path begins. -/
def start (t : FileTree) (path : String) : Location :=
  if Path.isAbsolute path then [] else t.current

/-- The place that a path leads to, where something stands. -/
def locate? (t : FileTree) (path : String) : Option Location :=
  if path = "" ∨ !admitsPath path then none
  else (t.follow (names path) (t.start path)).toOption

def lookup? (t : FileTree) (path : String) : Option FileNode :=
  (t.locate? path).bind t.node?

def put (t : FileTree) (place : Location) (node : FileNode) : FileTree :=
  { t with nodes := (place, node) :: t.nodes.filter fun entry => entry.1 != place }

def remove (t : FileTree) (place : Location) : FileTree :=
  { t with nodes := t.nodes.filter fun entry => entry.1 != place }

/-- Follows names and makes the directories that are missing on the way. -/
def makeWay : FileTree → List String → Location → Option (FileTree × Location)
  | t, [], place => some (t, place)
  | t, name :: names, place =>
      let next := step place name
      match t.node? next with
      | some .directory => makeWay t names next
      | some (.file _ _) => none
      | none =>
          if admitsName name then makeWay (t.put next .directory) names next else none

/-- Writes a file and makes the directories that it stands in. -/
def write (t : FileTree) (path text : String) (modified : Int) : FileTree :=
  let way := names path
  match t.makeWay way.dropLast (t.start path) with
  | some (t, place) => t.put (step place (way.getLast?.getD "")) (.file text modified)
  | none => t

def readFile? (t : FileTree) (path : String) : Option String :=
  match t.lookup? path with
  | some (.file text _) => some text
  | _ => none

def pathExists (t : FileTree) (path : String) : Bool := (t.lookup? path).isSome

/-- Makes a directory in one that is there. -/
def makeIn (t : FileTree) (place : Location) (name : String) : DirectoryOutcome × FileTree :=
  let next := step place name
  match t.isDirectory place && admitsName name, t.node? next with
  | false, _ | true, some (.file _ _) => (.refused, t)
  | true, some .directory => (.ready, t)
  | true, none => (.ready, t.put next .directory)

/-- Makes the directory that the last name of a path stands for; slashes behind it do not count. -/
def makeDirectory (t : FileTree) (path : String) : DirectoryOutcome × FileTree :=
  if !admitsPath path then (.refused, t)
  else
    match (names path).reverse.dropWhile (· == "") with
    | [] => (if Path.isAbsolute path then .ready else .homeless, t)
    | name :: above =>
        match t.follow above.reverse (t.start path) with
        | .ok place => t.makeIn place name
        | .error .missing => (.homeless, t)
        | .error .blocked => (.refused, t)

def entryOf : FileNode → String → DirectoryEntry
  | .directory, name => ⟨name, false, 0⟩
  | .file _ modified, name => ⟨name, true, modified⟩

def entriesOf? (t : FileTree) (path : String) : Option (List DirectoryEntry) :=
  match t.locate? path with
  | some place =>
      if t.isDirectory place then
        some (t.nodes.filterMap fun entry =>
          match entry.1 with
          | name :: above => if above = place then some (entryOf entry.2 name) else none
          | [] => none)
      else none
  | none => none

def removeFile (t : FileTree) (path : String) : Bool × FileTree :=
  match t.locate? path with
  | some place =>
      match t.node? place with
      | some (.file _ _) => (true, t.remove place)
      | _ => (false, t)
  | none => (false, t)

/-- The path of the working directory. -/
def currentPath (t : FileTree) : String := "/" ++ String.intercalate "/" t.current.reverse

instance : MonadFiles (StateM FileTree) where
  currentDirectory := fun t => (t.currentPath, t)
  readFile? path := fun t => (t.readFile? path, t)
  pathExists path := fun t => (t.pathExists path, t)
  makeDirectory path := fun t => t.makeDirectory path
  entriesOf? path := fun t => (t.entriesOf? path, t)
  removeFile path := fun t => t.removeFile path
  now := fun t => (t.clock, t)

end FileTree

end Allotment
