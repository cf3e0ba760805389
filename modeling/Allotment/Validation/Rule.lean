import Allotment.Consumer
import Allotment.Pool
import Allotment.Text.Pieces

/-!
# Rules

Eleven rules say what may stand against granting a quantity of a pool to a consumer. Each looks
at the request on its own and finds something or nothing; `findings` asks all of them, in the
order of the catalogue.
-/

namespace Allotment

inductive Rule where
  | coresCapability
  | ramCapability
  | instanceCapability
  | derivedProductCapability
  | manifestVirtRestriction
  | quantityAvailable
  | socketCoverage
  | architectureMismatch
  | virtOnly
  | physicalOnly
  | instanceQuantityMismatch
  deriving DecidableEq, Repr

/-- What a rule found, with the parameters of its text. -/
structure Finding where
  rule : Rule
  params : List String
  deriving DecidableEq, Repr

/-- A quantity of a pool that is asked for on behalf of a consumer. -/
structure Request where
  consumer : Consumer
  pool : Pool
  quantity : UInt32
  deriving DecidableEq, Repr

/-! ## Names of capabilities -/

namespace Capability

def cores : String := "cores"

def ram : String := "ram"

def instanceMultiplier : String := "instance_multiplier"

def derivedProduct : String := "derived_product"

end Capability

namespace Rule

/-- The name under which a rule is known to users. -/
def name : Rule → String
  | coresCapability => "CoresCapability"
  | ramCapability => "RamCapability"
  | instanceCapability => "InstanceCapability"
  | derivedProductCapability => "DerivedProductCapability"
  | manifestVirtRestriction => "ManifestVirtRestriction"
  | quantityAvailable => "QuantityAvailable"
  | socketCoverage => "SocketCoverage"
  | architectureMismatch => "ArchitectureMismatch"
  | virtOnly => "VirtOnly"
  | physicalOnly => "PhysicalOnly"
  | instanceQuantityMismatch => "InstanceQuantityMismatch"

def all : List Rule :=
  [coresCapability, ramCapability, instanceCapability, derivedProductCapability,
   manifestVirtRestriction, quantityAvailable, socketCoverage, architectureMismatch, virtOnly,
   physicalOnly, instanceQuantityMismatch]

def ofName? (s : String) : Option Rule := all.find? fun rule => rule.name == s

/-- What follows the word for the severity in the resource key, where the key has such a word. -/
def keyStem? : Rule → Option String
  | coresCapability => some "cores.unsupported.by.consumer"
  | ramCapability => some "ram.unsupported.by.consumer"
  | instanceCapability => some "instance.unsupported.by.consumer"
  | derivedProductCapability => some "derivedproduct.unsupported.by.consumer"
  | manifestVirtRestriction => none
  | quantityAvailable => some "no.entitlements.available"
  | socketCoverage => some "unsupported.number.of.sockets"
  | architectureMismatch => some "architecture.mismatch"
  | virtOnly => some "virt.only"
  | physicalOnly => some "physical.only"
  | instanceQuantityMismatch => some "quantity.mismatch"

/-- The resource key of a finding, led by the given word. -/
def resourceKey (rule : Rule) (leader : String) : String :=
  match rule.keyStem? with
  | some stem => leader ++ "." ++ stem
  | none => "pool.not.available.to.manifest.consumers"

/-- A finding that names the pool alone. -/
def against (rule : Rule) (pool : Pool) : Finding := ⟨rule, [pool.id]⟩

end Rule

/-- Reads a positive number below `2^64`, with blanks around it. -/
def readPositive? (s : String) : Option Nat :=
  match Text.natural? (Text.trim s) with
  | some n => if 0 < n ∧ n < UInt64.size then some n else none
  | none => none

namespace Request

variable (request : Request)

/-- The product asks for something that the consumer does not declare to be capable of. -/
def lacks (need capability : String) : Bool :=
  (request.pool.productAttribute? need).isSome &&
    !request.consumer.hasCapability capability

def checkCores : Option Finding :=
  if request.lacks Attribute.cores Capability.cores then
    some (Rule.coresCapability.against request.pool)
  else none

def checkRam : Option Finding :=
  if request.lacks Attribute.ram Capability.ram then
    some (Rule.ramCapability.against request.pool)
  else none

def checkInstances : Option Finding :=
  if request.lacks Attribute.instanceMultiplier Capability.instanceMultiplier then
    some (Rule.instanceCapability.against request.pool)
  else none

def checkDerivedProduct : Option Finding :=
  if request.pool.hasDerivedProduct &&
      !request.consumer.hasCapability Capability.derivedProduct then
    some (Rule.derivedProductCapability.against request.pool)
  else none

/-- Manifests may not hold virtual pools that were derived from others or are tied to a host. -/
def checkManifest : Option Finding :=
  if request.consumer.isManifest && request.pool.isVirtOnly &&
      (request.pool.isDerived || request.pool.requiresHost) then
    some (Rule.manifestVirtRestriction.against request.pool)
  else none

/-- The quantity is within what is left of the pool. -/
def checkQuantity : Option Finding :=
  let pool := request.pool
  if pool.isUnlimited then none
  else if pool.remaining.val < request.quantity.toNat then
    some ⟨.quantityAvailable,
      [pool.id, toString request.quantity.toNat, toString pool.remaining.val]⟩
  else none

/-- The sockets that the quantity covers; entitlements of a stack add up, at most to the greatest
number of 64 bits. -/
def coveredSockets (sockets : Nat) : Nat :=
  match request.pool.stackingId? with
  | some _ => min (sockets * request.quantity.toNat) (UInt64.size - 1)
  | none => sockets

def checkSockets : Option Finding :=
  if request.consumer.isManifest then none
  else do
    let sockets ← (request.pool.productAttribute? Attribute.sockets).bind readPositive?
    let present ← (request.consumer.fact? Fact.cpuSockets).bind readPositive?
    let covered := request.coveredSockets sockets
    if covered < present then
      some ⟨.socketCoverage, [request.pool.id, toString present, toString covered]⟩
    else none

/-- The product names the consumer's architecture, or all of them. -/
def checkArchitecture : Option Finding :=
  if request.consumer.isManifest then none
  else do
    let supported ← request.pool.productAttribute? Attribute.architecture
    let fact ← request.consumer.fact? Fact.architecture
    let architecture := Text.trim fact
    let named := (Text.pieces Attribute.separator supported).any fun piece =>
      Text.sameLetters (Text.trim piece) "ALL" ||
        Text.sameLetters (Text.trim piece) architecture
    if named then none
    else some ⟨.architectureMismatch, [request.pool.id, architecture]⟩

def checkVirtOnly : Option Finding :=
  if !request.consumer.isManifest && request.pool.isVirtOnly && !request.consumer.isGuest then
    some (Rule.virtOnly.against request.pool)
  else none

def checkPhysicalOnly : Option Finding :=
  if !request.consumer.isManifest && request.pool.isPhysicalOnly && request.consumer.isGuest then
    some (Rule.physicalOnly.against request.pool)
  else none

/-- On a physical system the quantity is a multiple of what the product asks for. -/
def checkInstanceQuantity : Option Finding :=
  if request.consumer.isManifest || request.consumer.isGuest then none
  else do
    let multiplier ←
      (request.pool.productAttribute? Attribute.instanceMultiplier).bind readPositive?
    if request.quantity.toNat % multiplier = 0 then none
    else
      some ⟨.instanceQuantityMismatch,
        [request.pool.id, toString request.quantity.toNat, toString multiplier]⟩

/-- All checks, in the order in which their findings are reported. -/
def catalogue : List (Request → Option Finding) :=
  [checkSockets, checkCores, checkRam, checkInstances, checkDerivedProduct, checkArchitecture,
   checkVirtOnly, checkPhysicalOnly, checkInstanceQuantity, checkManifest, checkQuantity]

/-- What the rules find; none of them keeps another from looking. -/
def findings : List Finding := catalogue.filterMap fun check => check request

end Request

end Allotment
