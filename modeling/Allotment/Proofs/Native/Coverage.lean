import Allotment.Proofs.Native.Choice
import Allotment.Proofs.Native.Targets

/-!
# What a selection covers

Where the ids of the pools differ, a selection covers all that can be covered
(`select_complete`): a target is left out only if no eligible pool provides it, and then the log
names it.
-/

namespace Allotment.Native

/-- The pool suits the consumer, and something is left of it. -/
structure Eligible (s : SelectionSnapshot) (pool : PoolView) : Prop where
  serviceLevel : serviceLevelMatches s pool = true
  architecture : architectureMatches s.consumer pool s.separator = true
  available : pool.available? ≠ some 0

/-- An eligible pool provides the product. -/
def Providable (s : SelectionSnapshot) (id : String) : Prop :=
  ∃ pool ∈ s.pools, Eligible s pool ∧ pool.provides id = true

variable {settings : NativeSettings} {s : SelectionSnapshot}

theorem isEligible_iff {pool : PoolView} : isEligible s pool = true ↔ Eligible s pool := by
  rw [isEligible, Bool.and_eq_true, Bool.and_eq_true, bne_iff_ne]
  exact ⟨fun h => ⟨h.1.1, h.1.2, h.2⟩, fun h => ⟨⟨h.1, h.2⟩, h.3⟩⟩

instance (pool : PoolView) : Decidable (Eligible s pool) := decidable_of_iff _ isEligible_iff

instance (id : String) : Decidable (Providable s id) :=
  inferInstanceAs (Decidable (∃ pool ∈ s.pools, Eligible s pool ∧ pool.provides id = true))

theorem mem_eligible_iff {pool : PoolView} :
    pool ∈ eligible s ↔ pool ∈ s.pools ∧ Eligible s pool := by
  rw [eligible, List.mem_filter, isEligible_iff]

theorem mem_chosen {pool : PoolView} (h : pool ∈ chosen settings s) :
    pool ∈ s.pools ∧ Eligible s pool :=
  mem_eligible_iff.mp (mem_of_mem_choose h)

theorem poolIds_select : (select settings s).map (·.poolId) = (chosen settings s).map (·.id) := by
  rw [select, List.map_map]
  rfl

theorem nodup_poolIds_select (settings : NativeSettings) (s : SelectionSnapshot) :
    ((select settings s).map (·.poolId)).Nodup := by
  rw [poolIds_select]
  exact nodup_ids_choose _ _

/-- Nothing is selected exactly if no eligible pool provides a target. -/
theorem select_eq_nil_iff :
    select settings s = [] ↔ ¬ ∃ id, IsTarget settings s id ∧ Providable s id := by
  have hnone : select settings s = [] ↔
      ∀ pool ∈ eligible s, ∀ id ∈ targets settings s, pool.provides id = false := by
    rw [select, List.map_eq_nil_iff, chosen, choose_eq_nil_iff]
  rw [hnone]
  constructor
  · rintro h ⟨id, hid, pool, hpool, heligible, hprovides⟩
    have hmem : pool ∈ eligible s := mem_eligible_iff.mpr ⟨hpool, heligible⟩
    rw [h pool hmem id (mem_targets_iff.mpr hid)] at hprovides
    cases hprovides
  · intro h pool hmem id hid
    obtain ⟨hpool, heligible⟩ := mem_eligible_iff.mp hmem
    refine Bool.eq_false_iff.mpr fun hprovides => h ?_
    exact ⟨id, mem_targets_iff.mp hid, pool, hpool, heligible, hprovides⟩

theorem provided_by_chosen_iff (hids : (s.pools.map (·.id)).Nodup) {id : String}
    (hid : IsTarget settings s id) :
    (∃ pool ∈ chosen settings s, pool.provides id = true) ↔ Providable s id := by
  have heligible : ((eligible s).map (·.id)).Nodup := hids.sublist (List.filter_sublist.map _)
  rw [chosen, provided_by_choose_iff heligible (mem_targets_iff.mpr hid)]
  simp only [mem_eligible_iff, Providable, and_assoc]

/-- Selected ids name the chosen pools, as no other pool bears them. -/
theorem provided_by_selected_iff (hids : (s.pools.map (·.id)).Nodup) {id : String} :
    (∃ pool ∈ s.pools, pool.id ∈ (select settings s).map (·.poolId) ∧ pool.provides id = true) ↔
      ∃ pool ∈ chosen settings s, pool.provides id = true := by
  rw [poolIds_select]
  constructor
  · rintro ⟨pool, hpool, hselected, hprovides⟩
    obtain ⟨first, hfirst, heq⟩ := List.mem_map.mp hselected
    have hsame := List.inj_on_of_nodup_map hids (mem_chosen hfirst).1 hpool heq
    exact ⟨first, hfirst, hsame ▸ hprovides⟩
  · rintro ⟨pool, hpool, hprovides⟩
    exact ⟨pool, (mem_chosen hpool).1, List.mem_map_of_mem hpool, hprovides⟩

theorem mem_leftUncovered_iff (hids : (s.pools.map (·.id)).Nodup) {id : String} :
    id ∈ leftUncovered settings s ↔ IsTarget settings s id ∧ ¬ Providable s id := by
  rw [leftUncovered, List.mem_filter, mem_targets_iff]
  refine and_congr_right fun hid => ?_
  rw [← provided_by_chosen_iff hids hid]
  simp

/-- The line that names the products which no eligible pool provides. -/
def missingLine (missing : List String) : LogLine :=
  ⟨.info, "no eligible pool provides products: " ++ String.intercalate ", " missing⟩

theorem info_selectLog :
    (selectLog settings s).filter (·.level == .info) =
      if leftUncovered settings s = [] then [] else [missingLine (leftUncovered settings s)] := by
  have hselected : ((select settings s).map selectedLine).filter (·.level == .info) = [] := by
    rw [List.filter_eq_nil_iff]
    intro line hline
    obtain ⟨selection, -, rfl⟩ := List.mem_map.mp hline
    exact Bool.false_ne_true
  unfold selectLog
  split
  · rename_i hnone
    simp [leftUncovered, hnone]
  · rw [List.filter_append, hselected, List.nil_append]
    split
    · rename_i hnil
      rw [hnil]
      rfl
    · rename_i missing hne
      rw [if_neg hne]
      rfl

/-- A target is provided by a selected pool exactly if an eligible pool provides it. The log has a
line for the user exactly if some target has no such pool; it is a single line, and it names these
targets, each once and in the order in which they first stand among the products. -/
theorem select_complete (settings : NativeSettings) (s : SelectionSnapshot)
    (hids : (s.pools.map (·.id)).Nodup) :
    (∀ id, IsTarget settings s id →
      ((∃ pool ∈ s.pools,
          pool.id ∈ (select settings s).map (·.poolId) ∧ pool.provides id = true) ↔
        Providable s id)) ∧
    ((∃ line ∈ selectLog settings s, line.level = .info) ↔
      ∃ id, IsTarget settings s id ∧ ¬ Providable s id) ∧
    ∃ missing : List String,
      (∀ id, id ∈ missing ↔ IsTarget settings s id ∧ ¬ Providable s id) ∧
      missing.Nodup ∧ InFirstOrder (s.products.map (·.id)) missing ∧
      (selectLog settings s).filter (·.level == .info) =
        if missing = [] then [] else [missingLine missing] := by
  have horder : InFirstOrder (s.products.map (·.id)) (leftUncovered settings s) :=
    (targets_inFirstOrder settings s).filter _
  refine ⟨fun id hid => ?_, ?_, leftUncovered settings s, ?_, horder.nodup, horder, ?_⟩
  · exact (provided_by_selected_iff hids).trans (provided_by_chosen_iff hids hid)
  · have hline : (∃ line ∈ selectLog settings s, line.level = .info) ↔
        (selectLog settings s).filter (·.level == .info) ≠ [] := by
      simp [List.filter_eq_nil_iff]
    rw [hline, info_selectLog]
    simp only [← mem_leftUncovered_iff hids]
    split
    · rename_i hnone
      simp [hnone]
    · rename_i hsome
      exact iff_of_true (List.cons_ne_nil _ _) (List.exists_mem_of_ne_nil _ hsome)
  · exact fun id => mem_leftUncovered_iff hids
  · exact info_selectLog

/-- A pool for the year 2026, without attributes. -/
def yearly (id : String) (quantity : Amount) (productIds : List String) : Pool where
  id := id
  productId := "offer of " ++ id
  derivedProductId := none
  quantity := quantity
  consumed := 0
  attributes := .empty
  productAttributes := .empty
  providedProducts := productIds.map fun productId => ⟨productId, ""⟩
  startDate := ⟨⟨2026, 1, 1, by decide, by decide, by decide, by decide, by decide⟩,
    ⟨0, 0, 0, 0, by decide, by decide, by decide, by decide⟩, 0, by decide, by decide⟩
  endDate := ⟨⟨2026, 12, 31, by decide, by decide, by decide, by decide, by decide⟩,
    ⟨0, 0, 0, 0, by decide, by decide, by decide, by decide⟩, 0, by decide, by decide⟩

/-- Three overlapping pools, of which one is used up, for a product that is covered already, one
that is installed twice, and one that no pool provides. -/
def overlapping : SelectionSnapshot where
  consumer := ⟨"c", .system, .empty, .empty, ""⟩
  pools := [.of (yearly "both" 0 ["web", "db"]), .of (yearly "left" 5 ["web", "os"]),
    .of (yearly "right" (-1) ["db", "web"])]
  products := ["web", "os", "db", "web", "cache"].map .placeholder
  separator := ","
  compliance := ⟨.ofList [("os", .covered)], .empty⟩
  exemptLevels := .empty

theorem select_complete_overlapping :
    (overlapping.pools.map (·.id)).Nodup ∧
      (∃ pool ∈ overlapping.pools,
        pool.id ∈ (select .default overlapping).map (·.poolId) ∧ pool.provides "db" = true) ∧
      ∃ line ∈ selectLog .default overlapping, line.level = .info := by
  have hids : (overlapping.pools.map (·.id)).Nodup := by decide
  obtain ⟨hcovered, hlogged, -⟩ := select_complete .default overlapping hids
  refine ⟨hids, (hcovered "db" ?_).mpr ?_, hlogged.mpr ⟨"cache", ?_, ?_⟩⟩
  · decide
  · decide
  · decide
  · decide

end Allotment.Native
