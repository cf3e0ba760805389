import Allotment.Proofs.Native.Removal

/-!
# Going on with a selection

A selection can be carried out in parts. If its first pools are bound, and all that they provide is
marked as covered, then selecting anew gives the rest of it (`select_resumed`): the targets that are
left are those that the run had left at this point, and the pools that were bound provide none of
them.
-/

namespace Allotment

/-- The products that the pool provides. -/
def PoolView.productIds (p : PoolView) : List String := p.productId :: p.providedIds

theorem PoolView.mem_productIds_iff {p : PoolView} {id : String} :
    id ∈ p.productIds ↔ p.provides id = true := by
  rw [productIds, List.mem_cons, provides, Bool.or_eq_true, beq_iff_eq, List.contains_iff_mem,
    eq_comm]

namespace Compliance

/-- The products are marked as covered, and all else is as before. -/
def markCovered (c : Compliance) (productIds : List String) : Compliance :=
  { c with products := productIds.foldl (fun t id => t.insert id .covered) c.products }

theorem get?_markCovered (c : Compliance) (productIds : List String) (id : String) :
    (c.markCovered productIds).products.get? id =
      if id ∈ productIds then some .covered else c.products.get? id := by
  rw [markCovered]
  generalize c.products = t
  induction productIds generalizing t with
  | nil => simp
  | cons first rest ih =>
      rw [List.foldl_cons, ih, Table.get?_insert]
      by_cases hrest : id ∈ rest
      · simp [hrest]
      · by_cases hfirst : first = id
        · simp [hfirst]
        · simp [hrest, hfirst, Ne.symm hfirst]

theorem isCovered_markCovered (c : Compliance) (productIds : List String) (id : String) :
    (c.markCovered productIds).isCovered id = (decide (id ∈ productIds) || c.isCovered id) := by
  rw [isCovered, isCovered, coverage, coverage, get?_markCovered]
  by_cases hid : id ∈ productIds
  · simp [hid]
  · simp [hid]

end Compliance

namespace Native

variable {pools : List PoolView} {uncovered : List String}

/-! ## The rest of a run -/

/-- Once a pool has been taken it provides nothing that is left, so it does not matter whether it is
still at hand. -/
theorem choose_without {pool : PoolView} (hids : (pools.map (·.id)).Nodup) (hpool : pool ∈ pools)
    (hcovered : ∀ id ∈ uncovered, pool.provides id = false) :
    choose (without pool.id pools) uncovered = choose pools uncovered := by
  refine choose_filter fun q hq hsame => ?_
  have heq : q = pool := List.inj_on_of_nodup_map hids hq hpool (by simpa using hsame)
  exact heq ▸ hcovered

/-- The products that none of the pools provides. -/
def unprovidedBy (taken : List PoolView) (products : List String) : List String :=
  products.filter fun id => !taken.any (·.provides id)

theorem unprovidedBy_cons (first : PoolView) (taken : List PoolView) (products : List String) :
    unprovidedBy (first :: taken) products = unprovidedBy taken (unprovided first products) := by
  rw [unprovidedBy, unprovidedBy, unprovided, List.filter_filter]
  refine List.filter_congr fun id _ => ?_
  rw [List.any_cons, Bool.not_or, Bool.and_comm]

/-- What is chosen for the products that the first pools leave are the other pools. -/
theorem choose_unprovidedBy (hids : (pools.map (·.id)).Nodup) (k : ℕ) :
    choose pools (unprovidedBy ((choose pools uncovered).take k) uncovered) =
      (choose pools uncovered).drop k := by
  induction pools, uncovered using choose.induct generalizing k with
  | case1 pools uncovered first hfirst ih =>
      cases k with
      | zero => simp [unprovidedBy]
      | succ k =>
          -- The run goes on without the first pool; selecting anew still has it at hand.
          rw [choose_of_best? hfirst, List.take_succ_cons, List.drop_succ_cons, unprovidedBy_cons,
            ← ih (hids.sublist (List.filter_sublist.map _)) k]
          refine (choose_without hids (mem_of_best? hfirst) fun id hid => ?_).symm
          exact (mem_unprovided_iff.mp (List.mem_of_mem_filter hid)).2
  | case2 pools uncovered hnone => simp [choose_of_none hnone, unprovidedBy]

/-! ## Targets after a part was bound -/

theorem filter_eraseDups (p : String → Bool) :
    (names : List String) → (names.filter p).eraseDups = names.eraseDups.filter p
  | [] => rfl
  | a :: names => by
      have ih := filter_eraseDups p (names.filter fun b => !b == a)
      by_cases ha : p a = true
      · rw [List.filter_cons_of_pos ha, List.eraseDups_cons, List.eraseDups_cons,
          List.filter_cons_of_pos ha, ← ih, List.filter_comm]
      · have hsame : (names.filter fun b => !b == a).filter p = names.filter p := by
          rw [List.filter_filter]
          refine List.filter_congr fun b _ => ?_
          cases hb : p b with
          | false => rw [Bool.false_and]
          | true =>
              have hne : b ≠ a := fun h => ha (h ▸ hb)
              simp [hne]
        rw [List.filter_cons_of_neg ha, List.eraseDups_cons, List.filter_cons_of_neg ha, ← ih,
          hsame]
termination_by names => names.length
decreasing_by exact Nat.lt_succ_of_le (List.length_filter_le _ _)

variable {settings : NativeSettings} {s : SelectionSnapshot}

theorem targets_markCovered (hskip : settings.skipCoveredProducts = true)
    (taken : List PoolView) :
    targets settings
        { s with compliance := s.compliance.markCovered (taken.flatMap PoolView.productIds) } =
      unprovidedBy taken (targets settings s) := by
  have hcovered (id : String) : decide (id ∈ taken.flatMap PoolView.productIds) =
      taken.any (·.provides id) := by
    rw [Bool.eq_iff_iff, decide_eq_true_iff, List.any_eq_true, List.mem_flatMap]
    simp only [PoolView.mem_productIds_iff]
  rw [targets, targets, unprovidedBy, ← filter_eraseDups, List.filter_filter]
  congr 1
  refine List.filter_congr fun id _ => ?_
  simp only [hskip, Bool.true_and, Compliance.isCovered_markCovered, hcovered, Bool.not_or]

/-! ## Selections -/

/-- The pools that the first so many selections name. -/
def boundPools (settings : NativeSettings) (s : SelectionSnapshot) (k : ℕ) : List PoolView :=
  s.pools.filter fun pool => (((select settings s).take k).map (·.poolId)).contains pool.id

/-- What is known when the first so many selections were bound: all that their pools provide is
covered, and nothing else has changed. -/
def afterBinding (settings : NativeSettings) (s : SelectionSnapshot) (k : ℕ) : SelectionSnapshot :=
  { s with
    compliance := s.compliance.markCovered
      ((boundPools settings s k).flatMap PoolView.productIds) }

theorem mem_boundPools_iff (hids : (s.pools.map (·.id)).Nodup) {k : ℕ} {pool : PoolView} :
    pool ∈ boundPools settings s k ↔ pool ∈ (chosen settings s).take k := by
  have htaken : ((select settings s).take k).map (·.poolId) =
      ((chosen settings s).take k).map (·.id) := by
    rw [List.map_take, poolIds_select, List.map_take]
  rw [boundPools, List.mem_filter, htaken, List.contains_iff_mem, List.mem_map]
  constructor
  · rintro ⟨hpool, first, hfirst, hsame⟩
    have hmem := (mem_chosen (List.mem_of_mem_take hfirst)).1
    exact List.inj_on_of_nodup_map hids hmem hpool hsame ▸ hfirst
  · intro hpool
    exact ⟨(mem_chosen (List.mem_of_mem_take hpool)).1, pool, hpool, rfl⟩

theorem unprovidedBy_congr {taken others : List PoolView} (h : ∀ pool, pool ∈ taken ↔ pool ∈ others)
    (products : List String) : unprovidedBy taken products = unprovidedBy others products := by
  refine List.filter_congr fun id _ => ?_
  have hany : taken.any (·.provides id) = others.any (·.provides id) := by
    rw [Bool.eq_iff_iff, List.any_eq_true, List.any_eq_true]
    simp only [h]
  rw [hany]

/-- Let the ids of the pools differ, and let covered products be skipped. After the first selections
were bound, selecting anew gives the other ones, in the same order and quantities. After all of them
were bound nothing more is selected. -/
theorem select_resumed (settings : NativeSettings) (s : SelectionSnapshot)
    (hids : (s.pools.map (·.id)).Nodup) (hskip : settings.skipCoveredProducts = true) :
    (∀ k ≤ (select settings s).length,
      select settings (afterBinding settings s k) = (select settings s).drop k) ∧
    select settings (afterBinding settings s (select settings s).length) = [] := by
  have hresumed (k : ℕ) :
      select settings (afterBinding settings s k) = (select settings s).drop k := by
    have heligible : ((eligible s).map (·.id)).Nodup := hids.sublist (List.filter_sublist.map _)
    have htargets : targets settings (afterBinding settings s k) =
        unprovidedBy ((chosen settings s).take k) (targets settings s) := by
      rw [afterBinding, targets_markCovered hskip]
      exact unprovidedBy_congr (fun pool => mem_boundPools_iff hids) _
    have hchosen : chosen settings (afterBinding settings s k) = (chosen settings s).drop k := by
      rw [chosen, htargets]
      exact choose_unprovidedBy heligible k
    rw [select, select, hchosen, List.map_drop]
    rfl
  exact ⟨fun k _ => hresumed k, by rw [hresumed, List.drop_length]⟩

/-- Two pools are selected. Once the first one is bound, only the product that it does not provide
is left for the second one. -/
theorem select_resumed_overlapping :
    let s : SelectionSnapshot := { overlapping with compliance := .empty }
    (s.pools.map (·.id)).Nodup ∧ NativeSettings.default.skipCoveredProducts = true ∧
      select .default s = [⟨"left", 1⟩, ⟨"right", 1⟩] ∧
      select .default (afterBinding .default s 1) = [⟨"right", 1⟩] ∧
      select .default (afterBinding .default s 2) = [] := by
  intro s
  have hids : (s.pools.map (·.id)).Nodup := by decide
  have hfirst : best? (targets .default s) (eligible s) =
      some (.of (yearly "left" 5 ["web", "os"])) := by decide
  have hsecond : best? ["db", "cache"] [.of (yearly "right" (-1) ["db", "web"])] =
      some (.of (yearly "right" (-1) ["db", "web"])) := by decide
  have hlast : best? ["cache"] [] = none := by decide
  have hchosen : chosen .default s =
      [.of (yearly "left" 5 ["web", "os"]), .of (yearly "right" (-1) ["db", "web"])] := by
    rw [chosen, choose_of_best? hfirst]
    exact congrArg _ ((choose_of_best? hsecond).trans (congrArg _ (choose_of_none hlast)))
  have hselect : select .default s = [⟨"left", 1⟩, ⟨"right", 1⟩] := by
    rw [select, hchosen]
    decide
  obtain ⟨hrest, hnone⟩ := select_resumed .default s hids rfl
  have hone := hrest 1 (by rw [hselect]; decide)
  rw [hselect] at hone hnone
  exact ⟨hids, rfl, hselect, hone, hnone⟩

end Native

end Allotment
