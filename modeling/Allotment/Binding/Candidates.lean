import Allotment.Catalogue
import Allotment.Consumer
import Allotment.Pool

/-!
# Candidates for a binding

A certificate of version 1 has room for so many content sets and no more. For a consumer that
can read no newer one, the pools whose provided products bring more content than that are left
out; for all others every pool is a candidate.
-/

namespace Allotment

/-- The content sets that a certificate of version 1 can carry, unless configured otherwise. -/
def defaultContentLimit : UInt64 := 185

namespace Consumer

/-- The consumer reports a certificate of version 1, or none. -/
def readsVersionOneOnly (c : Consumer) : Bool :=
  match c.fact? Fact.certificateVersion with
  | some version => ['1', '.'].isPrefixOf version.toList
  | none => true

end Consumer

/-- What is known of content when candidates are sought. -/
structure ContentFilter where
  catalogue : Catalogue
  limit : UInt64

namespace ContentFilter

/-- The content sets of the provided products together, each product counted once. -/
def contentCount (filter : ContentFilter) (pool : Pool) : Nat :=
  ((NameSet.ofList pool.providedIds).toList.map filter.catalogue.contentCount).foldr (· + ·) 0

def admits (filter : ContentFilter) (pool : Pool) : Bool :=
  filter.contentCount pool ≤ filter.limit.toNat

/-- The pools among which a selection is made, in order. -/
def candidates (filter : ContentFilter) (consumer : Consumer) (pools : List Pool) : List Pool :=
  if consumer.readsVersionOneOnly then pools.filter filter.admits else pools

end ContentFilter

end Allotment
