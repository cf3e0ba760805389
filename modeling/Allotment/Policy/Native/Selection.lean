import Allotment.Policy.Evaluator
import Allotment.Policy.Native.Eligibility

/-!
# Selecting pools

The products to be covered are the installed ones, each once, without those that are covered
already. Pools are taken one after the other: of the eligible ones always the pool that provides
most of what is still uncovered, of several such pools the one that ends first, and of those the
one that stands first. No id is taken twice. The run ends when no pool provides anything more.
-/

namespace Allotment

structure NativeSettings where
  skipCoveredProducts : Bool
  deriving DecidableEq, Repr

namespace NativeSettings

def default : NativeSettings := ⟨true⟩

end NativeSettings

namespace Native

/-- The products to be covered, in the order in which they first stand. -/
def targets (settings : NativeSettings) (s : SelectionSnapshot) : List String :=
  ((s.products.map (·.id)).filter fun id =>
    !(settings.skipCoveredProducts && s.compliance.isCovered id)).eraseDups

def eligible (s : SelectionSnapshot) : List PoolView := s.pools.filter (isEligible s)

/-- The number of uncovered products that the pool provides. -/
def gain (uncovered : List String) (pool : PoolView) : Nat := uncovered.countP pool.provides

/-- The first pool is to be taken before the second one, whichever stands first. -/
def isBetter (uncovered : List String) (p q : PoolView) : Bool :=
  decide (gain uncovered q < gain uncovered p) ||
    (gain uncovered p == gain uncovered q && decide (p.endDate.instant < q.endDate.instant))

/-- The first of the items that no other one is better than. -/
def foremost? {α : Type} (better : α → α → Bool) : List α → Option α
  | [] => none
  | a :: as =>
      match foremost? better as with
      | some b => if better b a then some b else some a
      | none => some a

theorem mem_of_foremost? {α : Type} {better : α → α → Bool} {as : List α} {a : α}
    (h : foremost? better as = some a) : a ∈ as := by
  induction as with
  | nil => cases h
  | cons b bs ih =>
      unfold foremost? at h
      split at h
      · rename_i c hc
        split at h
        · cases h
          exact List.mem_cons_of_mem _ (ih hc)
        · cases h
          exact List.mem_cons_self
      · cases h
        exact List.mem_cons_self

/-- The pool to be taken next. -/
def best? (uncovered : List String) (pools : List PoolView) : Option PoolView :=
  foremost? (isBetter uncovered) (pools.filter fun p => decide (0 < gain uncovered p))

theorem mem_of_best? {uncovered : List String} {pools : List PoolView} {p : PoolView}
    (h : best? uncovered pools = some p) : p ∈ pools :=
  (List.mem_filter.mp (mem_of_foremost? h)).1

/-- The pools of other ids. -/
def without (id : String) (pools : List PoolView) : List PoolView :=
  pools.filter fun q => q.id != id

theorem length_without_lt {pools : List PoolView} {p : PoolView} (h : p ∈ pools) :
    (without p.id pools).length < pools.length :=
  List.length_filter_lt_length_iff_exists.mpr ⟨p, h, by simp⟩

/-- The products that the pool does not provide. -/
def unprovided (p : PoolView) (products : List String) : List String :=
  products.filter fun id => !p.provides id

/-- The pools that are taken from the given ones to cover the products, in order. -/
def choose (pools : List PoolView) (uncovered : List String) : List PoolView :=
  match _h : best? uncovered pools with
  | some p => p :: choose (without p.id pools) (unprovided p uncovered)
  | none => []
termination_by pools.length
decreasing_by exact length_without_lt (mem_of_best? (by assumption))

/-- The pools that are selected, in order. -/
def chosen (settings : NativeSettings) (s : SelectionSnapshot) : List PoolView :=
  choose (eligible s) (targets settings s)

/-- The products to be covered that no selected pool provides. -/
def leftUncovered (settings : NativeSettings) (s : SelectionSnapshot) : List String :=
  let taken := chosen settings s
  (targets settings s).filter fun id => !taken.any (·.provides id)

def selectionFor (s : SelectionSnapshot) (pool : PoolView) : Selection :=
  ⟨pool.id, quantityFor s.consumer pool⟩

def select (settings : NativeSettings) (s : SelectionSnapshot) : List Selection :=
  (chosen settings s).map (selectionFor s)

def selectedLine (selection : Selection) : LogLine :=
  ⟨.debug, "selected pool '" ++ selection.poolId ++ "' with quantity " ++
    toString selection.quantity.val⟩

/-- What is logged in the course of a selection. -/
def selectLog (settings : NativeSettings) (s : SelectionSnapshot) : List LogLine :=
  if targets settings s = [] then
    [⟨.debug, "all installed products are already covered; nothing to select"⟩]
  else
    (select settings s).map selectedLine ++
      match leftUncovered settings s with
      | [] => []
      | missing =>
          [⟨.info, "no eligible pool provides products: " ++ String.intercalate ", " missing⟩]

end Native

end Allotment
