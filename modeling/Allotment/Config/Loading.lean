import Allotment.Config
import Allotment.Document.Json5
import Allotment.Document.Schema
import Allotment.Files

/-!
# Loading configuration files

A configuration file is read as JSON5 and held against a schema: the one it names under
`$schema`, else the one that stands next to it. What passes is read into a configuration. Paths
in the file are seen from the directory that the file is in; the defaults of a run without a
file are not.
-/

namespace Allotment

inductive ConfigError where
  | unreadable (path : String)
  | unparsable (path : String)
  /-- The file names no schema and none stands next to it. -/
  | noSchema
  | unreadableSchema (path : String)
  | unparsableSchema (path : String)
  | invalid (violations : List Violation)
  /-- The schema found nothing wrong, and yet the file is no configuration. -/
  | malformed

namespace ConfigError

def message : ConfigError → String
  | unreadable path => "failed to read " ++ path
  | unparsable path => "failed to parse " ++ path
  | noSchema =>
      "unable to resolve schema path: expected $schema in config or entitler.schema.json next to it"
  | unreadableSchema path => "failed to read schema " ++ path
  | unparsableSchema path => "failed to parse schema " ++ path
  | invalid violations =>
      "config validation failed: " ++
        String.intercalate "; " (violations.map Violation.message)
  | malformed => "failed to deserialize entitler config"

end ConfigError

namespace Config

/-- The schema that a configuration names. -/
def namedSchema? (d : Document) : Option String :=
  (Schema.member? "$schema" d).bind Document.readText?

/-- The configuration with its log directory seen from the directory of the file. -/
def relocated (base : String) (c : Config) : Config :=
  { c with logging.directory := Path.join base c.logging.directory }

/-- What a parsed file comes to under a schema. -/
def ofParsed (base : String) (schema : Schema) (d : Document) : Except ConfigError Config :=
  match schema.violations d with
  | [] =>
      match ofDocument? d with
      | some c => .ok (c.relocated base)
      | none => .error .malformed
  | violations => .error (.invalid violations)

variable {m : Type → Type} [Monad m] [MonadFiles m]

/-- The path of the schema for a configuration in the directory. -/
def schemaPath? (base : String) (d : Document) : m (Option String) := do
  match namedSchema? d with
  | some path => return some (Path.join base path)
  | none =>
      let path := Path.join base "entitler.schema.json"
      if ← MonadFiles.pathExists path then return some path else return none

def loadSchema (path : String) : m (Except ConfigError Schema) := do
  match ← MonadFiles.readFile? path with
  | none => return .error (.unreadableSchema path)
  | some text =>
      match Schema.ofJson? text with
      | none => return .error (.unparsableSchema path)
      | some schema => return .ok schema

def load (path : String) : m (Except ConfigError Config) := do
  match ← MonadFiles.readFile? path with
  | none => return .error (.unreadable path)
  | some text =>
      match Document.ofJson5? text with
      | none => return .error (.unparsable path)
      | some d =>
          let base := (Path.parent? path).getD "."
          match ← schemaPath? base d with
          | none => return .error .noSchema
          | some schemaPath =>
              match ← loadSchema schemaPath with
              | .error e => return .error e
              | .ok schema => return ofParsed base schema d

/-- The file where it exists, else the defaults. -/
def loadOrDefault (path : String) : m (Except ConfigError Config) := do
  if ← MonadFiles.pathExists path then load path else return .ok default

end Config

end Allotment
