import Allotment.Config.Format
import Allotment.Config.Loading
import Allotment.Proofs.Document.Acceptance
import Allotment.Proofs.Document.JsonReading

/-!
# A configuration file and the schema next to it

The schema of configuration files is taken apart into its sections and fields. A file that names
no schema and next to which this one stands is loaded as what the schema and the reader make of
its text (`load_of_placed`).
-/

namespace Allotment.Config

open Schema

/-! ## The schema -/

def loggingSchema : Schema :=
  closed [("dir", nonEmptyText), ("filter", nonEmptyText), ("retention_days", wholeFrom 1),
    ("rotation", oneOf ["daily", "hourly"]), ("stderr_warn_enabled", switch)]

def bindingSchema : Schema := closed [("v1_content_limit", wholeFrom 0)]

def nativeSchema : Schema := closed [("skip_covered_products", switch)]

def policySchema : Schema :=
  closed [("mode", oneOf ["native", "unconfigured"]), ("native", nativeSchema)]

theorem schema_eq :
    schema = closed [("$schema", someText), ("autobind", bindingSchema),
      ("logging", loggingSchema), ("policy", policySchema)] := rfl

/-- The file that is laid out for configurations holds this schema. -/
theorem ofJson?_schemaText : Schema.ofJson? schemaText = some schema := by
  have hread : Document.ofJson? schemaText = some schemaDocument :=
    Document.ofJson?_lay (by decide)
  have hkept : (schemaDocument.isLegible && schemaDocument.depth ≤ Document.maxDepth) = true := by
    decide
  rw [Schema.ofJson?, Document.ofJsonWhole?, hread, Option.filter_some, if_pos hkept]
  rfl

/-! ## The files -/

/-- The directory that a file is seen to be in. -/
def directoryOf (path : String) : String := (Path.parent? path).getD "."

/-- The file at the path has this text, and the schema of configuration files stands next to
it. -/
structure Placed (t : FileTree) (path text : String) : Prop where
  file : t.readFile? path = some text
  schema : ∃ schemaFile, Schema.ofJson? schemaFile = some schema ∧
    t.readFile? (Path.join (directoryOf path) "entitler.schema.json") = some schemaFile

/-- A working directory with a configuration file and another one, the schema, next to it. -/
def workspace (text schemaFile : String) : FileTree where
  nodes := [(["entitler.jsonc", "work"], .file text 0),
    (["entitler.schema.json", "work"], .file schemaFile 0), (["work"], .directory)]
  current := ["work"]
  clock := 0

theorem placed_workspace {schemaFile : String} (h : Schema.ofJson? schemaFile = some schema)
    (text : String) : Placed (workspace text schemaFile) "entitler.jsonc" text :=
  ⟨rfl, schemaFile, h, rfl⟩

theorem pathExists_of_readFile? {t : FileTree} {path text : String}
    (h : t.readFile? path = some text) : t.pathExists path = true := by
  unfold FileTree.readFile? at h
  split at h
  · rename_i hlookup
    rw [FileTree.pathExists, hlookup]
    rfl
  · cases h

section
variable {t : FileTree} {path text : String} {d : Document}

theorem schemaPath?_of_exists (hnamed : namedSchema? d = none) {base : String}
    (hexists : t.pathExists (Path.join base "entitler.schema.json") = true) :
    (schemaPath? base d : StateM FileTree (Option String)) t =
      (some (Path.join base "entitler.schema.json"), t) := by
  simp only [schemaPath?, hnamed, bind, StateT.bind, MonadFiles.pathExists, hexists, if_true]
  rfl

theorem loadSchema_of_readFile? {schema : Schema} (hfile : t.readFile? path = some text)
    (hschema : Schema.ofJson? text = some schema) :
    (loadSchema path : StateM FileTree (Except ConfigError Schema)) t = (.ok schema, t) := by
  simp only [loadSchema, bind, StateT.bind, MonadFiles.readFile?, hfile, hschema]
  rfl

theorem ofParsed_of_accepts {base : String} (h : schema.accepts d = true) :
    ofParsed base schema d =
      match ofDocument? d with
      | some c => .ok (c.relocated base)
      | none => .error .malformed := by
  cases hsettings : ofDocument? d with
  | none => simp only [ofParsed, accepts_iff.mp h, hsettings]
  | some c => simp only [ofParsed, accepts_iff.mp h, hsettings]

/-- A file that names no schema is held against the one next to it. Loading changes no file. -/
theorem load_of_placed (hplaced : Placed t path text) (hread : Document.ofJson5? text = some d)
    (hunnamed : Schema.member? "$schema" d = none) :
    (load path : StateM FileTree (Except ConfigError Config)) t =
      (ofParsed (directoryOf path) schema d, t) := by
  obtain ⟨hfile, schemaFile, hschema, hbeside⟩ := hplaced
  have hnamed : namedSchema? d = none := by rw [namedSchema?, hunnamed, Option.bind_none]
  have hpath := schemaPath?_of_exists hnamed (pathExists_of_readFile? hbeside)
  have hload := loadSchema_of_readFile? hbeside hschema
  simp only [directoryOf] at hpath hload ⊢
  simp only [load, bind, StateT.bind, MonadFiles.readFile?, hfile, hread, hpath, hload]
  rfl

end

end Allotment.Config
