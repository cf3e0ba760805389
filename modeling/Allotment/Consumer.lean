import Allotment.Document.Fields
import Allotment.Text.Blank
import Allotment.Text.LetterCase

/-!
# Consumers

A consumer is what entitlements are granted to: a system, a hypervisor, or a manifest that
holds entitlements for others. It reports facts about itself and declares the capabilities it
has.
-/

namespace Allotment

inductive ConsumerKind where
  | manifest
  | system
  | hypervisor
  deriving DecidableEq, Repr

namespace ConsumerKind

def word : ConsumerKind → String
  | manifest => "manifest"
  | system => "system"
  | hypervisor => "hypervisor"

def ofWord? : String → Option ConsumerKind
  | "manifest" => some manifest
  | "system" => some system
  | "hypervisor" => some hypervisor
  | _ => none

theorem ofWord?_word (kind : ConsumerKind) : ofWord? kind.word = some kind := by
  cases kind <;> rfl

end ConsumerKind

/-! ## Names of facts -/

namespace Fact

def certificateVersion : String := "system.certificate_version"

def cpuSockets : String := "cpu.cpu_socket(s)"

def architecture : String := "uname.machine"

def isGuest : String := "virt.is_guest"

end Fact

structure Consumer where
  id : String
  kind : ConsumerKind
  facts : Table String
  capabilities : NameSet
  serviceLevel : Option String
  deriving DecidableEq, Repr

namespace Consumer

def fact? (c : Consumer) (name : String) : Option String := c.facts.get? name

def isManifest (c : Consumer) : Bool := c.kind == .manifest

/-- The consumer reports that it runs on a virtual machine. -/
def isGuest (c : Consumer) : Bool :=
  match c.fact? Fact.isGuest with
  | some value => Text.sameLetters (Text.trim value) "true"
  | none => false

/-- The consumer declares the capability under exactly this name. -/
def hasCapability (c : Consumer) (name : String) : Bool :=
  NameSet.contains c.capabilities name

def ofDocument? (d : Document) : Option Consumer := do
  let fields ← d.readMembers?
  let id ← Document.required "id" fields Document.readText?
  let kind ← Document.required "type" fields (Document.readWord? ConsumerKind.ofWord?)
  let facts ← Document.optional "facts" fields .empty Document.readTexts?
  let capabilities ← Document.optional "capabilities" fields .empty Document.readNames?
  let serviceLevel ← Document.nullable "service_level" fields Document.readText?
  return { id, kind, facts, capabilities, serviceLevel }

def toDocument (c : Consumer) : Document :=
  .record [
    ("id", .text c.id),
    ("type", .text c.kind.word),
    ("facts", .ofTexts c.facts),
    ("capabilities", .ofNames c.capabilities),
    ("service_level", .ofNullable .text c.serviceLevel)]

end Consumer

end Allotment
