import Allotment.Proofs.Binding.NativeBinding
import Allotment.Proofs.Native.Substitution
import Allotment.Proofs.Text.Trimming

/-!
# Stray blanks in a binding

Blanks around facts, service levels and attributes are looked through wherever a pool is judged, and
so a binding by the native policy comes to the same without them. There is one exception. The version
of the certificate is read as it stands: with a blank before its version 1 a consumer passes for one
that reads newer certificates, and no pool is left out for its content (`run_native_trimmed`).
-/

namespace Allotment

namespace Consumer

/-- The consumer reports a certificate of version 1, but with a blank before it. -/
def indentsVersionOne (c : Consumer) : Bool :=
  match c.fact? Fact.certificateVersion with
  | some version =>
      version.toList.head?.any Text.isBlank &&
        ['1', '.'].isPrefixOf (Text.trim version).toList
  | none => false

/-- Without stray blanks a version 1 is found wherever one stands. -/
theorem readsVersionOneOnly_trimmed (c : Consumer) :
    c.trimmed.readsVersionOneOnly = (c.readsVersionOneOnly || c.indentsVersionOne) := by
  rw [readsVersionOneOnly, readsVersionOneOnly, indentsVersionOne, fact?_trimmed]
  cases c.fact? Fact.certificateVersion with
  | none => rfl
  | some version =>
      have hword : ∀ d ∈ ['1', '.'], Text.isBlank d = false :=
        List.forall_mem_cons.mpr ⟨by decide, List.forall_mem_singleton.mpr (by decide)⟩
      rw [Option.map_some]
      dsimp only
      cases hfront : version.toList.head?.any Text.isBlank with
      | false =>
          rw [Bool.false_and, Bool.or_false, Bool.eq_iff_iff, List.isPrefixOf_iff_prefix,
            List.isPrefixOf_iff_prefix, Text.prefix_trim_iff hword hfront]
      | true =>
          have hnot : ['1', '.'].isPrefixOf version.toList = false := by
            rw [Bool.eq_false_iff, ne_eq, List.isPrefixOf_iff_prefix]
            exact Text.not_prefix_of_blank (List.cons_ne_nil _ _) hword hfront
          rw [hnot, Bool.false_or, Bool.true_and]

theorem trim_serviceLevel_trimmed (c : Consumer) (override : Option String) :
    Text.trim (ConsumerView.of c.trimmed override).serviceLevel =
      Text.trim (ConsumerView.of c override).serviceLevel := by
  simp only [ConsumerView.of, trimmed]
  cases override.bind Text.nonBlank? with
  | some level => rfl
  | none => cases c.serviceLevel <;> simp

end Consumer

/-! ## Candidates -/

namespace ContentFilter

variable {filter : ContentFilter}

/-- The content of a pool does not depend on its attributes. -/
theorem filter_admits_trimmed (pools : List Pool) :
    (pools.map Pool.trimmed).filter filter.admits =
      (pools.filter filter.admits).map Pool.trimmed := by
  rw [List.filter_map]
  rfl

theorem candidates_trimmed (c : Consumer) (pools : List Pool) :
    filter.candidates c.trimmed (pools.map Pool.trimmed) =
      (filter.candidates c
        (if c.indentsVersionOne then pools.filter filter.admits else pools)).map Pool.trimmed := by
  rw [candidates, candidates, c.readsVersionOneOnly_trimmed, filter_admits_trimmed]
  cases c.readsVersionOneOnly <;> cases c.indentsVersionOne <;> simp

end ContentFilter

/-! ## Selections -/

theorem PoolView.available?_of_trimmed (pool : Pool) :
    (PoolView.of pool.trimmed).available? = (PoolView.of pool).available? := rfl

namespace Binding

/-- The binding without blanks around the facts, the attributes and the service level of the
consumer. -/
def trimmed (b : Binding) : Binding :=
  { b with consumer := b.consumer.trimmed, pools := b.pools.map Pool.trimmed }

variable {b : Binding} {candidates : List Pool} {settings : NativeSettings}

theorem serviceLevelMatches_trimmed (pool : Pool) :
    Native.serviceLevelMatches (b.trimmed.snapshot (candidates.map Pool.trimmed))
        (.of pool.trimmed) =
      Native.serviceLevelMatches (b.snapshot candidates) (.of pool) := by
  have hexempt : Native.isExempt (b.trimmed.snapshot (candidates.map Pool.trimmed)) =
      Native.isExempt (b.snapshot candidates) := rfl
  have hlevel : Text.trim (b.trimmed.snapshot (candidates.map Pool.trimmed)).consumer.serviceLevel =
      Text.trim (b.snapshot candidates).consumer.serviceLevel :=
    b.consumer.trim_serviceLevel_trimmed b.serviceLevelOverride
  simp only [Native.serviceLevelMatches, hexempt, hlevel, PoolView.productAttribute?_of,
    Pool.productAttribute?_trimmed]

theorem architectureMatches_trimmed (pool : Pool) (c : Consumer) (override : Option String)
    (separator : String) :
    Native.architectureMatches (.of c.trimmed override) (.of pool.trimmed) separator =
      Native.architectureMatches (.of c override) (.of pool) separator := by
  rw [Native.architectureMatches, Native.architectureMatches, PoolView.productAttribute?_of,
    PoolView.productAttribute?_of, Pool.productAttribute?_trimmed, ConsumerView.fact?_of,
    ConsumerView.fact?_of, Consumer.fact?_trimmed]
  cases pool.productAttribute? Attribute.architecture <;>
    cases c.fact? Fact.architecture <;> simp

theorem quantityFor_trimmed (pool : Pool) (c : Consumer) (override : Option String) :
    Native.quantityFor (.of c.trimmed override) (.of pool.trimmed) =
      Native.quantityFor (.of c override) (.of pool) := by
  have hsockets : ((c.trimmed.fact? Fact.cpuSockets).bind fun fact =>
      Native.readPositiveAmount? (Text.trim fact)) =
      (c.fact? Fact.cpuSockets).bind fun fact => Native.readPositiveAmount? (Text.trim fact) :=
    bind_eq_of_map_trim (fun text => by rw [Text.trim_trim]) (c.map_trim_fact?_trimmed _)
  have hneeded : Native.neededQuantity (.of c.trimmed override) (.of pool.trimmed) =
      Native.neededQuantity (.of c override) (.of pool) := by
    simp only [Native.neededQuantity, PoolView.productAttribute?_of,
      Pool.productAttribute?_trimmed, ConsumerView.fact?_of, hsockets]
  rw [Native.quantityFor, Native.quantityFor, hneeded, PoolView.available?_of_trimmed]

theorem replaces_trimmed (pool : Pool) :
    Native.Replaces (b.snapshot candidates) (b.trimmed.snapshot (candidates.map Pool.trimmed))
      (.of pool) (.of pool.trimmed) where
  id := rfl
  provides := rfl
  instant := rfl
  eligible := by
    rw [Native.isEligible, Native.isEligible, serviceLevelMatches_trimmed,
      PoolView.available?_of_trimmed]
    congr 2
    exact architectureMatches_trimmed pool b.consumer b.serviceLevelOverride _
  quantity := quantityFor_trimmed pool b.consumer b.serviceLevelOverride

theorem select_trimmed :
    Native.select settings (b.trimmed.snapshot (candidates.map Pool.trimmed)) =
      Native.select settings (b.snapshot candidates) := by
  have htargets : Native.targets settings (b.trimmed.snapshot (candidates.map Pool.trimmed)) =
      Native.targets settings (b.snapshot candidates) := rfl
  have hpools : List.Forall₂ (Native.Replaces (b.snapshot candidates)
      (b.trimmed.snapshot (candidates.map Pool.trimmed))) (candidates.map PoolView.of)
      ((candidates.map Pool.trimmed).map PoolView.of) := by
    simp only [List.forall₂_map_left_iff, List.forall₂_map_right_iff, List.forall₂_same]
    exact fun pool _ => replaces_trimmed pool
  exact (Native.select_of_forall₂ htargets hpools).1

end Binding

/-! ## Draws -/

/-- The draw is of the pool without blanks around its attributes. -/
def Draw.trimmed (draw : Draw) : Draw := { draw with pool := draw.pool.trimmed }

namespace Binding

theorem byId_map_trimmed (candidates : List Pool) :
    byId (candidates.map Pool.trimmed) = (byId candidates).map Pool.trimmed := by
  refine Table.ext_get? fun id => ?_
  rw [Table.get?_map, get?_byId, get?_byId, meant?, meant?, ← List.map_reverse, List.find?_map]
  rfl

theorem drawOf?_trimmed (pool : Pool) (quantity : Amount) :
    drawOf? pool.trimmed quantity = (drawOf? pool quantity).map Draw.trimmed := by
  unfold drawOf? Draw.of?
  split
  · split <;> rfl
  · rfl

theorem drawsFrom_map_trimmed (candidates : Table Pool) (seen : List String)
    (selections : List Selection) :
    drawsFrom (candidates.map Pool.trimmed) seen selections =
      (drawsFrom candidates seen selections).map (List.map Draw.trimmed) := by
  induction selections generalizing seen with
  | nil => rfl
  | cons s rest ih =>
      rw [drawsFrom, drawsFrom, Table.get?_map]
      split
      · rfl
      · cases candidates.get? s.poolId with
        | none => exact ih (s.poolId :: seen)
        | some pool =>
            rw [Option.map_some]
            dsimp only
            rw [drawOf?_trimmed]
            cases drawOf? pool s.quantity with
            | none => rfl
            | some draw =>
                rw [Option.map_some]
                dsimp only
                rw [ih]
                cases drawsFrom candidates (s.poolId :: seen) rest <;> rfl

theorem resolve_map_trimmed (productIds : List String) (candidates : List Pool)
    (selections : Option (List Selection)) :
    resolve productIds (candidates.map Pool.trimmed) selections =
      (resolve productIds candidates selections).map (List.map Draw.trimmed) := by
  rw [resolve, resolve]
  cases selections.getD [] with
  | nil => rfl
  | cons s rest =>
      dsimp only
      rw [← byId, ← byId, byId_map_trimmed, drawsFrom_map_trimmed]
      cases drawsFrom (byId candidates) [] (s :: rest) with
      | error e => rfl
      | ok draws => cases draws <;> rfl

end Binding

/-! ## Outcomes -/

/-- What is picked: the ids of the pools and how much of each, in order, or else why not. -/
def BindingOutcome.picks (outcome : BindingOutcome) :
    Except BindingError (List (String × UInt32)) :=
  outcome.result.map (List.map fun draw => (draw.pool.id, draw.quantity))

namespace Binding

variable {b : Binding} {filter : ContentFilter} {settings : NativeSettings}

/-- Among the same candidates the same is picked, with stray blanks or without them. -/
theorem picks_native_trimmed {pools : List Pool}
    (hcandidates : filter.candidates b.trimmed.consumer b.trimmed.pools =
      (filter.candidates b.consumer pools).map Pool.trimmed) :
    (b.trimmed.run filter (Native.evaluator settings)).picks =
      (({ b with pools := pools } : Binding).run filter (Native.evaluator settings)).picks := by
  by_cases hnone : filter.candidates b.consumer pools = []
  · rw [hnone, List.map_nil] at hcandidates
    rw [run_of_no_candidate (b := b.trimmed) hcandidates,
      run_of_no_candidate (b := { b with pools := pools }) hnone]
    rfl
  · have hsome : filter.candidates b.trimmed.consumer b.trimmed.pools ≠ [] := by
      rw [hcandidates]
      exact mt List.map_eq_nil_iff.mp hnone
    have hselect : Native.select settings (b.trimmed.snapshot
          ((filter.candidates b.consumer pools).map Pool.trimmed)) =
        Native.select settings (({ b with pools := pools } : Binding).snapshot
          (filter.candidates b.consumer pools)) := select_trimmed
    have hids : b.trimmed.productIds = b.productIds := rfl
    rw [BindingOutcome.picks, BindingOutcome.picks, result_native (b := b.trimmed) hsome,
      result_native (b := { b with pools := pools }) hnone, hcandidates, hselect, hids,
      resolve_map_trimmed]
    -- A trimmed draw is of the pool with the same id.
    cases resolve b.productIds (filter.candidates b.consumer pools) _ with
    | error e => rfl
    | ok draws => simp [Except.map, Draw.trimmed, Pool.trimmed]

/-- Without stray blanks the native policy picks the same as with them, and fails for the same
reason. Only if a blank stands before a certificate of version 1 it picks what it would have picked
among the pools that such a certificate has room for. -/
theorem run_native_trimmed (b : Binding) (filter : ContentFilter) (settings : NativeSettings) :
    (b.trimmed.run filter (Native.evaluator settings)).picks =
      if b.consumer.indentsVersionOne then
        (({ b with pools := b.pools.filter filter.admits } : Binding).run filter
          (Native.evaluator settings)).picks
      else (b.run filter (Native.evaluator settings)).picks := by
  have hcandidates := filter.candidates_trimmed b.consumer b.pools
  split
  · rename_i hindents
    rw [if_pos hindents] at hcandidates
    exact picks_native_trimmed hcandidates
  · rename_i hindents
    rw [if_neg hindents] at hcandidates
    exact picks_native_trimmed hcandidates

/-- A certificate of version 1 has room for one of the two content sets of the product. -/
def narrow : ContentFilter :=
  ⟨.ofProducts [⟨"web", "Web server", .empty, .ofList ["rpms", "sources"]⟩], 1⟩

/-- A binding for a consumer that writes a blank before its version 1. -/
def indented : Binding where
  consumer := ⟨"c", .system, .ofList [(Fact.certificateVersion, " 1.0")], .empty, none⟩
  productIds := ["web"]
  pools := [leftDraw.pool]
  compliance := .empty
  serviceLevelOverride := none
  exemptLevels := .empty

/-- With the blank the pool is picked, and without it there is no candidate. -/
theorem picks_native_indented :
    (indented.run narrow (Native.evaluator .default)).picks = .ok [("left", 1)] ∧
      (indented.trimmed.run narrow (Native.evaluator .default)).picks =
        .error (.noEligiblePools ["web"]) := by
  have hcandidates : narrow.candidates indented.consumer indented.pools = [leftDraw.pool] := by
    decide
  have hnone : narrow.candidates indented.trimmed.consumer indented.trimmed.pools = [] := by
    decide
  have hchosen : Native.chosen .default (indented.snapshot [leftDraw.pool]) =
      [.of leftDraw.pool] := Native.choose_eq_singleton (by decide) (by decide)
  constructor
  · rw [BindingOutcome.picks, result_native (by decide), hcandidates, Native.select, hchosen]
    decide
  · rw [run_of_no_candidate hnone]
    rfl

end Binding

end Allotment
