import Allotment.Scenario
import Allotment.Settlement

/-!
# Sessions

A session is a scenario and a configuration that change from step to step, with the entitlements
that have been granted from the pools of the scenario. A step that fails leaves the session as it
was.
-/

namespace Allotment

structure Session where
  scenario : Scenario
  config : Config
  entitlements : Table Entitlement
  /-- How many grants there have been, those taken back included. -/
  granted : Nat
  deriving Repr

inductive SessionError where
  /-- A record with its changes is no longer what it was a record of. -/
  | unreadable
  | noSuchPool
  | noSuchEntitlement
  deriving DecidableEq, Repr

/-- A change to a session. Members of a record are written over those of the same name, and a
null takes the member away. -/
inductive SessionChange where
  | setConsumer (members : List (String × Document))
  | setConfig (members : List (String × Document))
  | setScenario (members : List (String × Document))
  | setPool (poolId : String) (members : List (String × Document))
  | addPool (pool : Pool)
  | removePool (poolId : String)
  | setCoverage (productId : String) (coverage : Coverage)
  | revoke (entitlementId : String)

/-- What a request for a grant came to: the pool after it, and the entitlement if there is one. -/
structure GrantOutcome where
  verdict : Verdict
  pool : Pool
  entitlement : Option Entitlement

namespace Session

def start (scenario : Scenario) (config : Config) : Session := ⟨scenario, config, .empty, 0⟩

/-! ## Pools of the scenario -/

def pool? (s : Session) (poolId : String) : Option Pool :=
  s.scenario.pools.find? fun p => p.id == poolId

/-- Puts a pool in the place of the first one with the id. -/
def replacePool (poolId : String) (replacement : Pool) : List Pool → List Pool
  | [] => []
  | p :: ps =>
      if p.id = poolId then replacement :: ps else p :: replacePool poolId replacement ps

def withPools (s : Session) (pools : List Pool) : Session :=
  { s with scenario.pools := pools }

def withPool (s : Session) (poolId : String) (pool : Pool) : Session :=
  s.withPools (replacePool poolId pool s.scenario.pools)

/-! ## Changes -/

/-- Reads the written form of something with changes to its members. -/
def reread {α : Type} (read : Document → Option α) (written : Document)
    (changes : List (String × Document)) : Except SessionError α :=
  match read (written.overlay changes) with
  | some a => .ok a
  | none => .error .unreadable

/-- Takes from a pool what had been consumed of it. -/
def giveBack (pool : Pool) (quantity : UInt32) : Pool :=
  { pool with consumed := pool.consumed.sub (.ofUnits quantity) }

/-- Takes an entitlement back; its pool may be gone by now. -/
def revoke (s : Session) (e : Entitlement) : Session :=
  let kept := { s with entitlements := s.entitlements.erase e.id }
  match s.pool? e.pool.id with
  | some pool => kept.withPool e.pool.id (giveBack pool e.quantity)
  | none => kept

def change (s : Session) : SessionChange → Except SessionError Session
  | .setConsumer members =>
      (reread Consumer.ofDocument? s.scenario.consumer.toDocument members).map fun consumer =>
        { s with scenario.consumer := consumer }
  | .setConfig members =>
      (reread Config.ofDocument? s.config.toDocument members).map fun config =>
        { s with config }
  | .setScenario members =>
      (reread Scenario.ofDocument? s.scenario.toDocument members).map fun scenario =>
        { s with scenario }
  | .setPool poolId members =>
      match s.pool? poolId with
      | some pool => (reread Pool.ofDocument? pool.toDocument members).map (s.withPool poolId)
      | none => .error .noSuchPool
  | .addPool pool => .ok (s.withPools (s.scenario.pools ++ [pool]))
  | .removePool poolId =>
      match s.pool? poolId with
      | some _ => .ok (s.withPools (s.scenario.pools.eraseP fun p => p.id == poolId))
      | none => .error .noSuchPool
  | .setCoverage productId coverage =>
      .ok {
        s with
        scenario.compliance.products := s.scenario.compliance.products.insert productId coverage }
  | .revoke entitlementId =>
      match s.entitlements.get? entitlementId with
      | some e => .ok (s.revoke e)
      | none => .error .noSuchEntitlement

/-! ## Grants -/

/-- The entitlement of the next grant, and the session with it. -/
def award (s : Session) (pool : Pool) (quantity : UInt32) : Entitlement × Session :=
  let number := s.granted + 1
  let drawn := { pool with consumed := pool.consumed.add (.ofUnits quantity) }
  let e : Entitlement :=
    ⟨"ent-" ++ toString number, s.scenario.consumer.id, drawn, quantity⟩
  (e, { s.withPool pool.id drawn with
    entitlements := s.entitlements.insert e.id e
    granted := number })

/-- Grants a quantity of a pool, if nothing stands against it. -/
def grant (s : Session) (poolId : String) (quantity : UInt32) (caller : Caller) :
    Except SessionError (GrantOutcome × Session) :=
  match s.pool? poolId with
  | none => .error .noSuchPool
  | some pool =>
      let verdict := Request.validate ⟨s.scenario.consumer, pool, quantity⟩ caller
      if verdict.isSuccessful then
        let (e, next) := s.award pool quantity
        .ok (⟨verdict, e.pool, some e⟩, next)
      else .ok (⟨verdict, pool, none⟩, s)

/-- What is to be settled of all the grants. -/
def settlement (s : Session) (subPools : Table Pool) : Grant where
  consumer := s.scenario.consumer
  entitlements := s.entitlements
  subPools := subPools
  success := true
  draws := Entitlement.draws s.entitlements

end Session

end Allotment
