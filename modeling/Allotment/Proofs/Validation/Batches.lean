import Allotment.Proofs.Binding.Outcome
import Allotment.Proofs.Validation.Listing
import Allotment.Scenario
import Mathlib.Data.List.Induction

/-!
# Many requests at once

A batch and a scenario both validate many requests, and either way each request is validated on
its own. A batch puts the verdicts on one pool together in the order of the requests
(`batch_eq_grouped`); a scenario lists the verdict on every request. So the verdicts of a scenario,
put together by pool, are those of the batch of its requests (`batch_and_scenario_agree`).
-/

namespace Allotment

/-! ## Verdicts put together -/

namespace Verdict

/-- Verdicts put together, the notices of an earlier one before those of a later one. -/
def concat (verdicts : List Verdict) : Verdict :=
  ⟨verdicts.flatMap (·.errors), verdicts.flatMap (·.warnings)⟩

theorem concat_append_singleton (verdicts : List Verdict) (verdict : Verdict) :
    concat (verdicts ++ [verdict]) = (concat verdicts).merge verdict := by
  simp [concat, merge]

/-- Nothing blocks in verdicts put together exactly if nothing blocks in any of them. -/
theorem isSuccessful_concat_iff {verdicts : List Verdict} :
    (concat verdicts).isSuccessful = true ↔
      ∀ verdict ∈ verdicts, verdict.isSuccessful = true := by
  simp [concat, isSuccessful]

/-- The verdicts given under a name. -/
def under (name : String) (named : List (String × Verdict)) : List Verdict :=
  (named.filter fun e => e.1 == name).map (·.2)

/-- Every name with the verdicts given under it, put together. -/
def grouped (named : List (String × Verdict)) : Table Verdict :=
  Table.ofList ((named.map (·.1)).map fun name => (name, concat (under name named)))

variable {named : List (String × Verdict)} {name : String}

theorem get?_grouped :
    (grouped named).get? name =
      if name ∈ named.map (·.1) then some (concat (under name named)) else none :=
  Table.get?_ofList_map _ _ name

theorem under_eq_nil (h : name ∉ named.map (·.1)) : under name named = [] := by
  have hnone : named.filter (fun e => e.1 == name) = [] := by
    rw [List.filter_eq_nil_iff]
    intro e he hname
    exact h (beq_iff_eq.mp hname ▸ List.mem_map_of_mem he)
  rw [under, hnone, List.map_nil]

theorem getD_get?_grouped :
    ((grouped named).get? name).getD empty = concat (under name named) := by
  rw [get?_grouped]
  split
  · rfl
  · rename_i hname
    rw [under_eq_nil hname]
    rfl

theorem under_append_singleton (named : List (String × Verdict)) (e : String × Verdict) :
    under name (named ++ [e]) =
      if e.1 = name then under name named ++ [e.2] else under name named := by
  by_cases he : e.1 = name <;> simp [under, he]

/-- One more verdict is merged with those that its name has. -/
theorem grouped_append_singleton (named : List (String × Verdict)) (e : String × Verdict) :
    grouped (named ++ [e]) =
      (grouped named).insert e.1 ((((grouped named).get? e.1).getD empty).merge e.2) := by
  apply Table.ext_get?
  intro name
  rw [Table.get?_insert, getD_get?_grouped, get?_grouped, get?_grouped, under_append_singleton]
  by_cases he : e.1 = name
  · simp [he, concat_append_singleton]
  · have hmem : name ∈ (named ++ [e]).map (·.1) ↔ name ∈ named.map (·.1) := by
      rw [List.map_append, List.mem_append, List.map_singleton, List.mem_singleton]
      exact or_iff_left fun h => he h.symm
    simp only [he, if_false, hmem]

end Verdict

/-! ## Batches -/

/-- The verdict on a draw alone. -/
def Draw.verdict (consumer : Consumer) (caller : Caller) (draw : Draw) : Verdict :=
  Request.validate ⟨consumer, draw.pool, draw.quantity⟩ caller

namespace Validation

variable (consumer : Consumer) (caller : Caller)

/-- The verdict on each draw, under the id of its pool. -/
def named (draws : List Draw) : List (String × Verdict) :=
  draws.map fun draw => (draw.pool.id, draw.verdict consumer caller)

theorem batch_append_singleton (draws : List Draw) (draw : Draw) :
    batch consumer (draws ++ [draw]) caller =
      (batch consumer draws caller).insert draw.pool.id
        ((((batch consumer draws caller).get? draw.pool.id).getD .empty).merge
          (draw.verdict consumer caller)) := by
  rw [batch, List.foldl_append]
  rfl

/-- A batch is the verdicts on its draws, put together by pool. -/
theorem batch_eq_grouped (draws : List Draw) :
    batch consumer draws caller = Verdict.grouped (named consumer caller draws) := by
  induction draws using List.reverseRecOn with
  | nil => rfl
  | append_singleton draws draw ih =>
      have hnamed : named consumer caller (draws ++ [draw]) =
          named consumer caller draws ++ [(draw.pool.id, draw.verdict consumer caller)] := by
        simp [named]
      rw [batch_append_singleton, ih, hnamed]
      exact (Verdict.grouped_append_singleton (named consumer caller draws)
        (draw.pool.id, draw.verdict consumer caller)).symm

theorem under_named (draws : List Draw) (id : String) :
    Verdict.under id (named consumer caller draws) =
      (draws.filter fun draw => draw.pool.id == id).map (·.verdict consumer caller) := by
  rw [Verdict.under, named, List.filter_map, List.map_map]
  rfl

variable {consumer caller} {draws : List Draw} {id : String}

theorem mem_ids_named :
    id ∈ (named consumer caller draws).map (·.1) ↔ ∃ draw ∈ draws, draw.pool.id = id := by
  simp [named]

theorem mem_keys_batch :
    id ∈ (batch consumer draws caller).keys ↔ ∃ draw ∈ draws, draw.pool.id = id := by
  rw [Table.mem_keys_iff, batch_eq_grouped, Verdict.get?_grouped, ← mem_ids_named]
  split
  · rename_i hmem
    exact iff_of_true rfl hmem
  · rename_i hmem
    exact iff_of_false Bool.false_ne_true hmem

/-- What a batch holds under an id: the verdicts on the draws from that pool, in their order. -/
theorem eq_concat_of_get?_batch {verdict : Verdict}
    (h : (batch consumer draws caller).get? id = some verdict) :
    verdict = Verdict.concat
      ((draws.filter fun draw => draw.pool.id == id).map (·.verdict consumer caller)) := by
  rw [batch_eq_grouped, Verdict.get?_grouped] at h
  split at h
  · rw [← under_named]
    exact (Option.some.inj h).symm
  · cases h

/-- The draws in another order leave the ids of a batch, and the notices under each of them. -/
theorem batch_perm {others : List Draw} (h : draws.Perm others) :
    (batch consumer draws caller).keys = (batch consumer others caller).keys ∧
      ∀ id verdict other, (batch consumer draws caller).get? id = some verdict →
        (batch consumer others caller).get? id = some other →
        verdict.errors.Perm other.errors ∧ verdict.warnings.Perm other.warnings := by
  constructor
  · apply Table.keys_eq_of_mem_iff
    intro id
    rw [mem_keys_batch, mem_keys_batch]
    simp only [h.mem_iff]
  · intro id verdict other hverdict hother
    have hdraws := (h.filter fun draw => draw.pool.id == id).map (·.verdict consumer caller)
    rw [eq_concat_of_get?_batch hverdict, eq_concat_of_get?_batch hother]
    exact ⟨hdraws.flatMap_right _, hdraws.flatMap_right _⟩

end Validation

/-! ## Scenarios -/

section
variable {α β ε : Type} {f : α → Except ε β}

/-- A walk that may fail fails exactly if one of its steps does. -/
theorem exists_mapM_error_iff {as : List α} :
    (∃ e, as.mapM f = .error e) ↔ ∃ a ∈ as, ∃ e, f a = .error e := by
  induction as with
  | nil => simp [pure, Except.pure]
  | cons a as ih =>
      simp only [List.mem_cons, exists_eq_or_imp, ← ih, List.mapM_cons]
      cases f a with
      | error e => simp [bind, Except.bind]
      | ok b => cases List.mapM f as <;> simp [bind, Except.bind, pure, Except.pure]

/-- A walk that does not fail has the result of every step, in order. -/
theorem forall₂_of_mapM_ok {as : List α} {bs : List β} (h : as.mapM f = .ok bs) :
    List.Forall₂ (fun a b => f a = .ok b) as bs := by
  induction as generalizing bs with
  | nil =>
      cases h
      exact .nil
  | cons a as ih =>
      rw [List.mapM_cons] at h
      cases ha : f a with
      | error e => simp [ha, bind, Except.bind] at h
      | ok b =>
          cases has : List.mapM f as with
          | error e => simp [ha, has, bind, Except.bind] at h
          | ok rest =>
              have hbs : b :: rest = bs := by
                simpa [ha, has, bind, Except.bind, pure, Except.pure] using h
              exact hbs ▸ .cons ha (ih has)

end

namespace Scenario

variable (s : Scenario) (caller : Caller)

/-- The pool that a request means: of those with the id, the last one of the scenario. -/
def meant? (r : PoolRequest) : Option Pool := Binding.meant? s.pools r.poolId

/-- The requests as draws from the pools that they mean; none where a pool or a quantity is
missing. -/
def draws? : Option (List Draw) :=
  s.requests.mapM fun r => (s.meant? r).bind fun pool => Draw.of? pool r.quantity

theorem validateOne_eq (r : PoolRequest) :
    s.validateOne caller r =
      match s.meant? r with
      | none => .error ⟨r.poolId⟩
      | some pool => .ok ⟨r, Request.validate ⟨s.consumer, pool, r.quantity⟩ caller⟩ := by
  rw [meant?, ← Binding.get?_byId]
  rfl

variable {s caller}

theorem validateOne_eq_ok_iff {r : PoolRequest} {outcome : RequestOutcome} :
    s.validateOne caller r = .ok outcome ↔
      ∃ pool, s.meant? r = some pool ∧
        outcome = ⟨r, Request.validate ⟨s.consumer, pool, r.quantity⟩ caller⟩ := by
  rw [validateOne_eq]
  cases s.meant? r with
  | none => simp
  | some pool => simp [eq_comm]

theorem exists_validateOne_error_iff {r : PoolRequest} :
    (∃ e, s.validateOne caller r = .error e) ↔ ∀ pool ∈ s.pools, pool.id ≠ r.poolId := by
  rw [validateOne_eq]
  cases hmeant : s.meant? r with
  | none =>
      have hnone : ∀ pool ∈ s.pools, pool.id ≠ r.poolId := by
        simpa [meant?, Binding.meant?] using hmeant
      simpa using hnone
  | some pool =>
      have hmem : ∃ pool ∈ s.pools, pool.id = r.poolId :=
        Binding.isSome_meant?_iff.mp (Option.isSome_iff_exists.mpr ⟨pool, hmeant⟩)
      simpa using hmem

/-- The draw of a request and the outcome of its validation name the same verdict. -/
theorem named_of_outcomes {requests : List PoolRequest} {outcomes : List RequestOutcome}
    (houtcomes : List.Forall₂ (fun r outcome => s.validateOne caller r = .ok outcome)
      requests outcomes)
    (hpositive : ∀ r ∈ requests, 0 < r.quantity) :
    ∃ draws, (requests.mapM fun r => (s.meant? r).bind fun pool => Draw.of? pool r.quantity) =
        some draws ∧
      Validation.named s.consumer caller draws =
        outcomes.map fun outcome => (outcome.request.poolId, outcome.verdict) := by
  induction houtcomes with
  | nil => exact ⟨[], rfl, rfl⟩
  | @cons r outcome requests outcomes hfirst _ ih =>
      obtain ⟨draws, hdraws, hnamed⟩ := ih fun r hr => hpositive r (List.mem_cons_of_mem _ hr)
      obtain ⟨pool, hpool, rfl⟩ := validateOne_eq_ok_iff.mp hfirst
      have hquantity : 0 < r.quantity := hpositive r List.mem_cons_self
      have hid : pool.id = r.poolId := by
        simpa using List.find?_some (show Binding.meant? s.pools r.poolId = some pool from hpool)
      have hdraw : ((s.meant? r).bind fun pool => Draw.of? pool r.quantity) =
          some ⟨pool, r.quantity, hquantity⟩ := by
        rw [hpool, Option.bind_some, Draw.of?, dif_pos hquantity]
      refine ⟨⟨pool, r.quantity, hquantity⟩ :: draws, ?_, ?_⟩
      · simp [List.mapM_cons, hdraw, hdraws]
      · simp [Validation.named, Draw.verdict, hid] at hnamed ⊢
        exact hnamed

end Scenario

/-- A batch has one verdict under the id of every pool that is drawn from, which holds the notices
of the verdicts on the draws from it, in their order; so it succeeds exactly if each of them does,
and draws in another order have the same notices in another order. A scenario fails to validate
exactly if a request names none of its pools. Otherwise every request has its own verdict, on the
last pool with its id, and where no quantity is zero these verdicts, put together by pool, are
those of a batch. -/
theorem batch_and_scenario_agree (consumer : Consumer) (draws : List Draw) (s : Scenario)
    (caller : Caller) :
    let table := Validation.batch consumer draws caller
    let single := fun draw : Draw =>
      Request.validate ⟨consumer, draw.pool, draw.quantity⟩ caller
    (∀ id, id ∈ table.keys ↔ ∃ draw ∈ draws, draw.pool.id = id) ∧
    (∀ id verdict, table.get? id = some verdict →
      let own := draws.filter fun draw => draw.pool.id == id
      verdict.errors = own.flatMap (fun draw => (single draw).errors) ∧
      verdict.warnings = own.flatMap (fun draw => (single draw).warnings) ∧
      (verdict.isSuccessful = true ↔
        ∀ draw ∈ draws, draw.pool.id = id → (single draw).isSuccessful = true)) ∧
    (∀ others : List Draw, draws.Perm others →
      table.keys = (Validation.batch consumer others caller).keys ∧
      ∀ id verdict other, table.get? id = some verdict →
        (Validation.batch consumer others caller).get? id = some other →
        verdict.errors.Perm other.errors ∧ verdict.warnings.Perm other.warnings) ∧
    ((∃ e, s.validate caller = .error e) ↔
      ∃ r ∈ s.requests, ∀ pool ∈ s.pools, pool.id ≠ r.poolId) ∧
    (∀ outcomes, s.validate caller = .ok outcomes →
      List.Forall₂ (fun r outcome => ∃ pool, s.meant? r = some pool ∧
        outcome = ⟨r, Request.validate ⟨s.consumer, pool, r.quantity⟩ caller⟩)
        s.requests outcomes ∧
      ((∀ r ∈ s.requests, 0 < r.quantity) →
        ∃ resolved, s.draws? = some resolved ∧
          Verdict.grouped (outcomes.map fun outcome => (outcome.request.poolId, outcome.verdict)) =
            Validation.batch s.consumer resolved caller)) := by
  intro table single
  refine ⟨fun id => Validation.mem_keys_batch, ?_, fun others => Validation.batch_perm, ?_, ?_⟩
  · intro id verdict hverdict own
    have hconcat : verdict = Verdict.concat (own.map single) :=
      Validation.eq_concat_of_get?_batch hverdict
    refine ⟨?_, ?_, ?_⟩
    · simp only [hconcat, Verdict.concat, List.flatMap_map]
    · simp only [hconcat, Verdict.concat, List.flatMap_map]
    · rw [hconcat, Verdict.isSuccessful_concat_iff, List.forall_mem_map]
      simp only [own, List.mem_filter, beq_iff_eq, and_imp]
  · rw [Scenario.validate, exists_mapM_error_iff]
    simp only [Scenario.exists_validateOne_error_iff]
  · intro outcomes hvalidate
    have houtcomes := forall₂_of_mapM_ok hvalidate
    refine ⟨houtcomes.imp fun r outcome h => Scenario.validateOne_eq_ok_iff.mp h, ?_⟩
    intro hpositive
    obtain ⟨resolved, hresolved, hnamed⟩ := Scenario.named_of_outcomes houtcomes hpositive
    refine ⟨resolved, hresolved, ?_⟩
    rw [Validation.batch_eq_grouped, hnamed]

namespace Scenario

/-- Three draws, the first and the last from one pool, which is asked for more than there is. -/
def smallTwice : List Draw :=
  [⟨Validation.twoSockets, 6, by decide⟩, ⟨Validation.guestsOnly, 1, UInt32.zero_lt_one⟩,
   ⟨Validation.twoSockets, 7, by decide⟩]

/-- The same draws as requests, with a pool in front that another one hides. -/
def hidden : Scenario where
  consumer := Validation.eightSockets
  installedProducts := []
  pools := [Native.yearly "small" 100 ["web"], Validation.guestsOnly, Validation.twoSockets]
  products := []
  compliance := .empty
  serviceLevelOverride := none
  exemptLevels := .empty
  requests := [⟨"small", 6⟩, ⟨"guests", 1⟩, ⟨"small", 7⟩]

theorem batch_and_scenario_agree_hidden :
    (∃ verdict, (Validation.batch Validation.eightSockets smallTwice .bind).get? "small" =
        some verdict ∧ verdict.isSuccessful = false ∧ verdict.errors.length = 2) ∧
      ∃ outcomes, hidden.validate .bind = .ok outcomes ∧
        hidden.draws? = some smallTwice ∧
        Verdict.grouped (outcomes.map fun outcome => (outcome.request.poolId, outcome.verdict)) =
          Validation.batch Validation.eightSockets smallTwice .bind := by
  obtain ⟨hkeys, hentry, -, hfails, hgrouped⟩ :=
    batch_and_scenario_agree Validation.eightSockets smallTwice hidden .bind
  constructor
  · have hmem := (hkeys "small").mpr ⟨_, List.mem_cons_self, rfl⟩
    obtain ⟨verdict, hverdict⟩ := Option.isSome_iff_exists.mp (Table.mem_keys_iff.mp hmem)
    obtain ⟨herrors, -, hsuccess⟩ := hentry "small" verdict hverdict
    refine ⟨verdict, hverdict, ?_, ?_⟩
    · rw [← Bool.not_eq_true, hsuccess]
      decide
    · rw [herrors]
      decide
  · cases hvalidate : hidden.validate .bind with
    | error e => exact absurd (hfails.mp ⟨e, hvalidate⟩) (by decide)
    | ok outcomes =>
        obtain ⟨-, hbatch⟩ := hgrouped outcomes hvalidate
        have hresolved : hidden.draws? = some smallTwice := by decide
        obtain ⟨resolved, hdraws, heq⟩ := hbatch (by decide)
        obtain rfl := Option.some.inj (hdraws.symm.trans hresolved)
        exact ⟨outcomes, rfl, hdraws, heq⟩

end Scenario

end Allotment
