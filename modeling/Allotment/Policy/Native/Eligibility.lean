import Allotment.Policy.Snapshot
import Allotment.Text.Pieces

/-!
# Eligible pools and their quantities

A pool is eligible for a consumer if its service level and its architecture suit and something
is left of it. From a pool whose entitlements stack, as many are taken as the consumer's sockets
need, as far as they are there.
-/

namespace Allotment.Native

/-- The level is exempt from being asked for, for this selection or for this consumer. -/
def isExempt (s : SelectionSnapshot) (level : String) : Bool :=
  (s.exemptLevels.toList ++ s.compliance.exemptServiceLevels.toList).any fun exempt =>
    Text.sameLetters exempt level

/-- The consumer wants no level in particular, or the pool offers the one that it wants or an
exempt one. -/
def serviceLevelMatches (s : SelectionSnapshot) (pool : PoolView) : Bool :=
  let wanted := Text.trim s.consumer.serviceLevel
  wanted == "" || isExempt s wanted ||
    match pool.productAttribute? Attribute.supportLevel with
    | some offered => Text.sameLetters offered wanted || isExempt s offered
    | none => false

/-- Unless both sides name an architecture, none is in the way. -/
def architectureMatches (consumer : ConsumerView) (pool : PoolView) (separator : String) : Bool :=
  match pool.productAttribute? Attribute.architecture, consumer.fact? Fact.architecture with
  | some supported, some present =>
      (Text.pieces separator supported).any fun candidate =>
        Text.sameLetters (Text.trim candidate) "ALL" ||
          Text.sameLetters (Text.trim candidate) (Text.trim present)
  | _, _ => true

def isEligible (s : SelectionSnapshot) (pool : PoolView) : Bool :=
  serviceLevelMatches s pool && architectureMatches s.consumer pool s.separator &&
    pool.available? != some 0

/-- Reads a number from 1 to the greatest amount. -/
def readPositiveAmount? (s : String) : Option Amount :=
  match Amount.read? s with
  | some n => if 0 < n.val then some n else none
  | none => none

/-- The entitlements that cover all sockets of the consumer, each so many of them. -/
def socketQuantity (sockets present : Amount) : Amount :=
  .clamp (present.val / sockets.val + if present.val % sockets.val = 0 then 0 else 1)

/-- The entitlements that the consumer needs: one, unless they stack and both sides count
sockets. -/
def neededQuantity (consumer : ConsumerView) (pool : PoolView) : Amount :=
  match pool.productAttribute? Attribute.stackingId,
      (pool.productAttribute? Attribute.sockets).bind readPositiveAmount?,
      (consumer.fact? Fact.cpuSockets).bind fun fact => readPositiveAmount? (Text.trim fact) with
  | some _, some sockets, some present => socketQuantity sockets present
  | _, _, _ => 1

/-- What is needed, as far as it is available, and at least one. -/
def quantityFor (consumer : ConsumerView) (pool : PoolView) : Amount :=
  let needed := neededQuantity consumer pool
  match pool.available? with
  | some available => .clamp (max (min needed.val available.val) 1)
  | none => needed

end Allotment.Native
