import Allotment.Binding
import Allotment.Config
import Allotment.Document.Json
import Allotment.Files
import Allotment.Validation

/-!
# Scenarios

A scenario holds all that a run is about: a consumer with its installed products, the pools and
products there are, and the requests that are to be validated. Pools are either selected for the
installed products, or every request is validated against the pool it names; of pools with one
id the last one is meant.
-/

namespace Allotment

/-- A quantity that is asked for of a pool. -/
structure PoolRequest where
  poolId : String
  quantity : UInt32
  deriving DecidableEq, Repr

structure Scenario where
  consumer : Consumer
  installedProducts : List String
  pools : List Pool
  products : List Product
  compliance : Compliance
  serviceLevelOverride : Option String
  exemptLevels : NameSet
  requests : List PoolRequest
  deriving DecidableEq, Repr

/-! ## The written form -/

namespace PoolRequest

def ofDocument? (d : Document) : Option PoolRequest := do
  let fields ← d.readMembers?
  let poolId ← Document.required "pool_id" fields Document.readText?
  let quantity ← Document.required "quantity" fields Document.readUnits?
  return { poolId, quantity }

def toDocument (r : PoolRequest) : Document :=
  .record [("pool_id", .text r.poolId), ("quantity", .ofUnits r.quantity)]

end PoolRequest

namespace Scenario

def ofDocument? (d : Document) : Option Scenario := do
  let fields ← d.readMembers?
  let consumer ← Document.required "consumer" fields Consumer.ofDocument?
  let installedProducts ←
    Document.optional "installed_products" fields [] (Document.readList? Document.readText?)
  let pools ← Document.optional "pools" fields [] (Document.readList? Pool.ofDocument?)
  let products ← Document.optional "products" fields [] (Document.readList? Product.ofDocument?)
  let compliance ← Document.optional "compliance" fields .empty Compliance.ofDocument?
  let serviceLevelOverride ← Document.nullable "service_level_override" fields Document.readText?
  let exemptLevels ← Document.optional "exempt_levels" fields .empty Document.readNames?
  let requests ←
    Document.optional "requests" fields [] (Document.readList? PoolRequest.ofDocument?)
  return { consumer, installedProducts, pools, products, compliance, serviceLevelOverride,
           exemptLevels, requests }

def toDocument (s : Scenario) : Document :=
  .record [
    ("consumer", s.consumer.toDocument),
    ("installed_products", .ofList .text s.installedProducts),
    ("pools", .ofList Pool.toDocument s.pools),
    ("products", .ofList Product.toDocument s.products),
    ("compliance", s.compliance.toDocument),
    ("service_level_override", .ofNullable .text s.serviceLevelOverride),
    ("exempt_levels", .ofNames s.exemptLevels),
    ("requests", .ofList PoolRequest.toDocument s.requests)]

end Scenario

/-! ## Reading a file -/

inductive ScenarioError where
  | unreadable (path : String)
  | unparsable (path : String)
  deriving DecidableEq, Repr

def ScenarioError.message : ScenarioError → String
  | unreadable path => "failed to read scenario " ++ path
  | unparsable path => "failed to parse scenario " ++ path

namespace Scenario

def load {m : Type → Type} [Monad m] [MonadFiles m] (path : String) :
    m (Except ScenarioError Scenario) := do
  match ← MonadFiles.readFile? path with
  | none => return .error (.unreadable path)
  | some text =>
      match (Document.ofJson? text).bind ofDocument? with
      | none => return .error (.unparsable path)
      | some s => return .ok s

/-! ## Selecting pools -/

def binding (s : Scenario) : Binding where
  consumer := s.consumer
  productIds := s.installedProducts
  pools := s.pools
  compliance := s.compliance
  serviceLevelOverride := s.serviceLevelOverride
  exemptLevels := s.exemptLevels

def contentFilter (s : Scenario) (settings : BindingSettings) : ContentFilter where
  catalogue := .ofProducts s.products
  limit := settings.contentLimit

/-- Selects pools for the installed products, as configured. -/
def select (s : Scenario) (config : Config) : BindingOutcome :=
  s.binding.run (s.contentFilter config.binding) config.policy.evaluator

end Scenario

/-- The written form of what a selection came to. -/
def selectionDocument : Except BindingError (List Draw) → Document
  | .ok draws =>
      .record [("status", .text "selected"), ("pools", .ofList Draw.toDocument draws)]
  | .error e => .record [("status", .text "failed"), ("error", e.toDocument)]

/-! ## Validating requests -/

/-- A request names a pool that the scenario does not have. -/
structure UnknownPool where
  poolId : String
  deriving DecidableEq, Repr

def UnknownPool.message (e : UnknownPool) : String :=
  "scenario requests unknown pool '" ++ e.poolId ++ "'"

/-- The verdict on one request. -/
structure RequestOutcome where
  request : PoolRequest
  verdict : Verdict
  deriving DecidableEq, Repr

def RequestOutcome.toDocument (o : RequestOutcome) : Document :=
  .record [
    ("pool_id", .text o.request.poolId),
    ("quantity", .ofUnits o.request.quantity),
    ("successful", .bool o.verdict.isSuccessful),
    ("result", o.verdict.toDocument)]

namespace Scenario

/-- The pools by their ids. -/
def poolTable (s : Scenario) : Table Pool :=
  Table.ofList (s.pools.map fun p => (p.id, p))

def validateOne (s : Scenario) (caller : Caller) (r : PoolRequest) :
    Except UnknownPool RequestOutcome :=
  match s.poolTable.get? r.poolId with
  | none => .error ⟨r.poolId⟩
  | some pool => .ok ⟨r, Request.validate ⟨s.consumer, pool, r.quantity⟩ caller⟩

/-- Validates the requests in order, up to one that names no pool. -/
def validate (s : Scenario) (caller : Caller) : Except UnknownPool (List RequestOutcome) :=
  s.requests.mapM (s.validateOne caller)

end Scenario

end Allotment
