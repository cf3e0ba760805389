import Allotment.Proofs.Native.Choice
import Mathlib.Data.List.Forall2

/-!
# Pools in the place of others

A selection asks five things of a pool: its id, what it provides, when it ends, whether it is
eligible and what quantity is taken of it. Where pool by pool these are the same, the runs take
pools from the same places, and the same is selected and logged (`select_of_forall₂`).
-/

namespace Allotment.Native

/-- Whoever chooses between pools sees no difference between the two. -/
structure SameOffer (pool other : PoolView) : Prop where
  id : other.id = pool.id
  provides : other.provides = pool.provides
  instant : other.endDate.instant = pool.endDate.instant

theorem SameOffer.gain {pool other : PoolView} (h : SameOffer pool other)
    (uncovered : List String) : gain uncovered other = gain uncovered pool := by
  rw [Native.gain, Native.gain, h.provides]

theorem SameOffer.isBetter {pool other rival stand : PoolView} (h : SameOffer pool other)
    (hrival : SameOffer rival stand) (uncovered : List String) :
    isBetter uncovered other stand = isBetter uncovered pool rival := by
  rw [Native.isBetter, Native.isBetter, h.gain, hrival.gain, h.instant, hrival.instant]

/-! ## Choosing from pools that stand for each other -/

theorem foremost?_forall₂ {α : Type} {R : α → α → Prop} {better : α → α → Bool}
    (hbetter : ∀ a b c d, R a b → R c d → better b d = better a c) {as bs : List α}
    (h : List.Forall₂ R as bs) : Option.Rel R (foremost? better as) (foremost? better bs) := by
  induction h with
  | nil => exact .none
  | @cons a b as bs hab _ ih =>
      rw [foremost?, foremost?]
      cases hfirst : foremost? better as <;> cases hother : foremost? better bs <;>
        rw [hfirst, hother] at ih
      · exact .some hab
      · cases ih
      · cases ih
      · obtain ⟨hrel⟩ := ih
        dsimp only
        rw [hbetter _ _ _ _ hrel hab]
        split
        · exact .some hrel
        · exact .some hab

section

variable {R : PoolView → PoolView → Prop} {pools others : List PoolView} {uncovered : List String}
  (hoffer : ∀ pool other, R pool other → SameOffer pool other)
include hoffer

theorem best?_forall₂ (h : List.Forall₂ R pools others) :
    Option.Rel R (best? uncovered pools) (best? uncovered others) := by
  refine foremost?_forall₂ (fun _ _ _ _ hab hcd => ?_) (List.rel_filter ?_ h)
  · exact (hoffer _ _ hab).isBetter (hoffer _ _ hcd) uncovered
  · intro pool other hrel
    simp only [(hoffer _ _ hrel).gain]

/-- The runs take pools that stand for each other, one after the other. -/
theorem choose_forall₂ (h : List.Forall₂ R pools others) :
    List.Forall₂ R (choose pools uncovered) (choose others uncovered) := by
  induction pools, uncovered using choose.induct generalizing others with
  | case1 pools uncovered first hfirst ih =>
      have hbest : Option.Rel R (best? uncovered pools) (best? uncovered others) :=
        best?_forall₂ hoffer h
      rw [hfirst] at hbest
      generalize hother : best? uncovered others = best at hbest
      cases hbest with
      | @some _ stand hrel =>
          have hleft : unprovided stand uncovered = unprovided first uncovered := by
            rw [unprovided, unprovided, (hoffer _ _ hrel).provides]
          have hrest : List.Forall₂ R (without first.id pools) (without stand.id others) := by
            refine List.rel_filter (fun pool other hpool => ?_) h
            simp only [(hoffer _ _ hpool).id, (hoffer _ _ hrel).id]
          rw [choose_of_best? hfirst, choose_of_best? hother, hleft]
          exact .cons hrel (ih hrest)
  | case2 pools uncovered hnone =>
      have hbest : Option.Rel R (best? uncovered pools) (best? uncovered others) :=
        best?_forall₂ hoffer h
      rw [hnone] at hbest
      generalize hother : best? uncovered others = best at hbest
      cases hbest
      rw [choose_of_none hnone, choose_of_none hother]
      exact .nil

end

/-! ## Selections -/

/-- In its own situation the second pool stands for the first one: it makes the same offer, is
eligible if the first one is, and is taken in the same quantity. -/
structure Replaces (s t : SelectionSnapshot) (pool other : PoolView) : Prop
    extends SameOffer pool other where
  eligible : isEligible t other = isEligible s pool
  quantity : quantityFor t.consumer other = quantityFor s.consumer pool

theorem map_eq_of_forall₂ {α β : Type} {R : α → α → Prop} {f g : α → β} {as bs : List α}
    (h : List.Forall₂ R as bs) (hfg : ∀ a b, R a b → g b = f a) : bs.map g = as.map f := by
  induction h with
  | nil => rfl
  | cons hab _ ih => rw [List.map_cons, List.map_cons, hfg _ _ hab, ih]

variable {settings : NativeSettings} {s t : SelectionSnapshot}

theorem chosen_forall₂ (htargets : targets settings t = targets settings s)
    (hpools : List.Forall₂ (Replaces s t) s.pools t.pools) :
    List.Forall₂ (Replaces s t) (chosen settings s) (chosen settings t) := by
  have heligible : List.Forall₂ (Replaces s t) (eligible s) (eligible t) := by
    refine List.rel_filter (fun pool other hreplaces => ?_) hpools
    simp only [hreplaces.eligible]
  rw [chosen, chosen, htargets]
  exact choose_forall₂ (fun _ _ hreplaces => hreplaces.toSameOffer) heligible

/-- Where the products to be covered are the same and the pools stand for each other in order, the
same is selected, and the same is logged. -/
theorem select_of_forall₂ (htargets : targets settings t = targets settings s)
    (hpools : List.Forall₂ (Replaces s t) s.pools t.pools) :
    select settings t = select settings s ∧ selectLog settings t = selectLog settings s := by
  have hchosen := chosen_forall₂ htargets hpools
  have hselect : select settings t = select settings s := by
    refine map_eq_of_forall₂ hchosen fun pool other hreplaces => ?_
    rw [selectionFor, selectionFor, hreplaces.id, hreplaces.quantity]
  have hprovides : (chosen settings t).map PoolView.provides =
      (chosen settings s).map PoolView.provides :=
    map_eq_of_forall₂ hchosen fun _ _ hreplaces => hreplaces.provides
  have hleft : leftUncovered settings t = leftUncovered settings s := by
    rw [leftUncovered, leftUncovered, htargets]
    refine List.filter_congr fun id _ => ?_
    have hany (taken : List PoolView) :
        taken.any (·.provides id) = (taken.map PoolView.provides).any (· id) := by
      rw [List.any_map]
      rfl
    rw [hany, hprovides, ← hany]
  refine ⟨hselect, ?_⟩
  rw [selectLog, selectLog, htargets, hselect, hleft]

end Allotment.Native
