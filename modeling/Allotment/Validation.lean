import Allotment.Entitlement
import Allotment.Validation.Severity

/-!
# Validation

A request is validated by all rules at once, so its verdict holds every finding. Several
requests are validated each on its own; the verdicts on one pool are merged. A listing validates
one unit of each pool and leaves out the pools that are blocked, unless all are asked for.
-/

namespace Allotment

namespace Request

def validate (request : Request) (caller : Caller) : Verdict :=
  Verdict.ofFindings request.findings caller

end Request

namespace Validation

/-- The verdict on every requested pool, by its id. -/
def batch (consumer : Consumer) (draws : List Draw) (caller : Caller) : Table Verdict :=
  draws.foldl
    (fun verdicts draw =>
      let earlier := (verdicts.get? draw.pool.id).getD .empty
      verdicts.insert draw.pool.id
        (earlier.merge (Request.validate ⟨consumer, draw.pool, draw.quantity⟩ caller)))
    .empty

/-- The pools with the verdicts on one unit of each. -/
def listing (consumer : Consumer) (pools : List Pool) (showAll : Bool) : List (Pool × Verdict) :=
  (pools.map fun pool => (pool, Request.validate ⟨consumer, pool, 1⟩ .listPools)).filter
    fun entry => showAll || entry.2.isSuccessful

end Validation

end Allotment
