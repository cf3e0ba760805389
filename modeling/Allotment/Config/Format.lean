import Allotment.Document.Schema

/-!
# The format of configuration files

The schema that stands beside a configuration file, and a sample of such a file.
-/

namespace Allotment.Config

namespace Format

def ofKind (kind : String) (more : List (String × Document)) : Document :=
  .record (("type", .text kind) :: more)

/-- A record with these members and no others. -/
def closedRecord (members : List (String × Document)) : List (String × Document) :=
  [("type", .text "object"), ("additionalProperties", .bool false),
   ("properties", .record members)]

def loggingMembers : List (String × Document) :=
  [("dir", ofKind "string" [("minLength", .integer 1)]),
   ("filter", ofKind "string" [("minLength", .integer 1)]),
   ("rotation", ofKind "string" [("enum", .ofList .text ["daily", "hourly"])]),
   ("retention_days", ofKind "integer" [("minimum", .integer 1)]),
   ("stderr_warn_enabled", ofKind "boolean" [])]

def bindingMembers : List (String × Document) :=
  [("v1_content_limit", ofKind "integer" [("minimum", .integer 0)])]

def nativeMembers : List (String × Document) :=
  [("skip_covered_products", ofKind "boolean" [])]

def policyMembers : List (String × Document) :=
  [("mode", ofKind "string" [("enum", .ofList .text ["native", "unconfigured"])]),
   ("native", .record (closedRecord nativeMembers))]

end Format

open Format in
/-- The schema of configuration files. -/
def schemaDocument : Document :=
  .record
    ([("$schema", .text "http://json-schema.org/draft-07/schema#"),
      ("title", .text "entitler config")] ++
     closedRecord
       [("$schema", ofKind "string" []),
        ("logging", .record (closedRecord loggingMembers)),
        ("autobind", .record (closedRecord bindingMembers)),
        ("policy", .record (closedRecord policyMembers))])

def schema : Schema := Schema.ofDocument schemaDocument.normalise

/-- The text of the schema file. -/
def schemaText : String := schemaDocument.lay

def sampleLines : List String :=
  ["\x7b",
   "  \"$schema\": \"./entitler.schema.json\",",
   "  \"logging\": \x7b",
   "    \"dir\": \"./logs/entitler\",",
   "    \"filter\": \"info,autobind=debug,enforcer=debug\",",
   "    \"rotation\": \"daily\",",
   "    \"retention_days\": 14,",
   "    \"stderr_warn_enabled\": true,",
   "  \x7d,",
   "  \"autobind\": \x7b",
   "    // consumers on certificate version 1.x cannot carry more content sets than this",
   "    \"v1_content_limit\": 185,",
   "  \x7d,",
   "  \"policy\": \x7b",
   "    \"mode\": \"native\",",
   "    \"native\": \x7b",
   "      \"skip_covered_products\": true,",
   "    \x7d,",
   "  \x7d,",
   "\x7d"]

/-- A configuration file that sets every field to its default, but for a more talkative log. -/
def sampleText : String := String.join (sampleLines.map fun line => line ++ "\n")

end Allotment.Config
