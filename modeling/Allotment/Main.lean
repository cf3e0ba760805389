import Allotment.Program
import Std.Time.DateTime.Timestamp

/-!
# The command line

Runs the program on the files of the disk. The result goes to standard output, a failure to
standard error with what lies behind it.
-/

namespace Allotment

namespace Disk

/-- Does something and answers none where it fails. -/
def attempt {α : Type} (action : IO α) : IO (Option α) :=
  try return some (← action) catch _ => return none

def succeeds (action : IO Unit) : IO Bool :=
  return (← attempt action).isSome

def nanoseconds (t : IO.FS.SystemTime) : Int :=
  t.sec * Retention.nanosecondsPerSecond + t.nsec.toNat

def isRegular : IO.FS.FileType → Bool
  | .file => true
  | _ => false

def readEntry (entry : IO.FS.DirEntry) : IO DirectoryEntry := do
  let metadata ← entry.path.symlinkMetadata
  return ⟨entry.fileName, isRegular metadata.type, nanoseconds metadata.modified⟩

/-- What stands in a directory and can be looked at. -/
def readEntries (path : String) : IO (List DirectoryEntry) := do
  let entries ← ((← IO.currentDir) / path).readDir
  return (← entries.toList.mapM fun entry => attempt (readEntry entry)).filterMap id

/-- Makes one directory. -/
def makeDirectory (path : String) : IO DirectoryOutcome := do
  try
    IO.FS.createDir path
    return .ready
  catch
    | .noFileOrDirectory .. => return .homeless
    | .alreadyExists .. =>
        let isDirectory ← ((← IO.currentDir) / path).isDir
        return if isDirectory then .ready else .refused
    | _ => return .refused

instance : MonadFiles IO where
  currentDirectory := return (← IO.currentDir).toString
  readFile? path := attempt (IO.FS.readFile path)
  pathExists path := do ((← IO.currentDir) / path).pathExists
  makeDirectory := makeDirectory
  entriesOf? path := attempt (readEntries path)
  removeFile path := succeeds (IO.FS.removeFile path)
  now := return (← Std.Time.Timestamp.now).toNanosecondsSinceUnixEpoch.val

end Disk

/-- The text of a failure on standard error. -/
def ProgramError.report (e : ProgramError) : String :=
  if e.isAbrupt then "a directive of the filter begins or ends inside a character"
  else match e.cause? with
  | some cause => "Error: " ++ e.message ++ "\n\nCaused by:\n    " ++ cause
  | none => "Error: " ++ e.message

end Allotment

def main (words : List String) : IO UInt32 := do
  match ← Allotment.Program.run words with
  | .ok text =>
      IO.print text
      return 0
  | .error e =>
      IO.eprintln e.report
      return e.exitStatus
