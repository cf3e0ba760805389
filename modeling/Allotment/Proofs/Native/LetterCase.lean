import Allotment.Proofs.Native.Coverage
import Allotment.Proofs.Native.Substitution
import Allotment.Proofs.Text.Recasing

/-!
# The case of letters

Service levels and architectures are words that people write. In whichever letters they stand, for
the consumer, in the pools and among the exempt levels, each pool is eligible as before, and so the
same pools are selected (`select_of_recased`).
-/

namespace Allotment

open Text (lower)

/-- The tables differ at most in the case of letters, and only in values under the given names. -/
structure Table.Recased (names : List String) (t u : Table String) : Prop where
  letters : ∀ name, (u.get? name).map lower = (t.get? name).map lower
  others : ∀ name, name ∉ names → u.get? name = t.get? name

/-- The members of the sets are the same words, however often and in whichever letters each word
stands there. -/
def NameSet.Recased (s t : NameSet) : Prop :=
  ∀ word, word ∈ t.toList.map lower ↔ word ∈ s.toList.map lower

/-- The architecture of the consumer and its service level may be in other letters. -/
structure ConsumerView.Recased (consumer other : ConsumerView) : Prop where
  facts : consumer.facts.Recased [Fact.architecture] other.facts
  serviceLevel : lower other.serviceLevel = lower consumer.serviceLevel
  others : { other with facts := consumer.facts, serviceLevel := consumer.serviceLevel } = consumer

/-- The service level of the product and its architectures may be in other letters. -/
structure PoolView.Recased (pool other : PoolView) : Prop where
  productAttributes : pool.productAttributes.Recased
    [Attribute.supportLevel, Attribute.architecture] other.productAttributes
  others : { other with productAttributes := pool.productAttributes } = pool

/-- Service levels and architectures may be in other letters. -/
structure SelectionSnapshot.Recased (s t : SelectionSnapshot) : Prop where
  consumer : s.consumer.Recased t.consumer
  pools : List.Forall₂ PoolView.Recased s.pools t.pools
  exemptLevels : s.exemptLevels.Recased t.exemptLevels
  exemptServiceLevels : s.compliance.exemptServiceLevels.Recased t.compliance.exemptServiceLevels
  coverage : t.compliance.products = s.compliance.products
  products : t.products = s.products
  separator : t.separator = s.separator

/-- One value is written again, in other letters. -/
theorem Table.recased_insert {names : List String} {t : Table String} {name value other : String}
    (hname : name ∈ names) (hvalue : t.get? name = some value)
    (hletters : lower other = lower value) : t.Recased names (t.insert name other) where
  letters key := by
    rw [get?_insert]
    split
    · rename_i hkey
      rw [← hkey, hvalue, Option.map_some, Option.map_some, hletters]
    · rfl
  others key hkey := by
    rw [get?_insert, if_neg]
    rintro rfl
    exact hkey hname

/-- Each member is written again, in other letters. Members may then coincide. -/
theorem NameSet.recased_ofList_map {s : NameSet} {f : String → String}
    (h : ∀ member ∈ s.toList, lower (f member) = lower member) :
    s.Recased (ofList (s.toList.map f)) := by
  intro word
  simp only [List.mem_map, mem_toList_ofList]
  constructor
  · rintro ⟨_, ⟨member, hmember, rfl⟩, rfl⟩
    exact ⟨member, hmember, (h member hmember).symm⟩
  · rintro ⟨member, hmember, rfl⟩
    exact ⟨f member, ⟨member, hmember, rfl⟩, h member hmember⟩

/-! ## What is read of pools and consumers -/

theorem none_or_some_of_map_eq {α β : Type} {f : α → β} {a b : Option α} (h : b.map f = a.map f) :
    (a = none ∧ b = none) ∨ ∃ x y, a = some x ∧ b = some y ∧ f y = f x := by
  cases a with
  | none => exact .inl ⟨rfl, Option.map_eq_none_iff.mp h⟩
  | some x =>
      obtain ⟨y, rfl, hy⟩ := Option.map_eq_some_iff.mp h
      exact .inr ⟨x, y, rfl, rfl, hy⟩

theorem PoolView.map_lower_productAttribute? (pool : PoolView) (name : String) :
    (pool.productAttribute? name).map lower =
      ((pool.productAttributes.get? name).map lower).bind Text.nonBlank? := by
  rw [productAttribute?]
  cases pool.productAttributes.get? name with
  | none => rfl
  | some value =>
      rw [Option.bind_some, Option.map_some, Option.bind_some, Text.map_lower_nonBlank?]

namespace PoolView.Recased

variable {pool other : PoolView}

theorem map_lower_eq (h : pool.Recased other) (name : String) :
    (other.productAttribute? name).map lower = (pool.productAttribute? name).map lower := by
  rw [map_lower_productAttribute?, map_lower_productAttribute?, h.productAttributes.letters]

theorem productAttribute?_eq (h : pool.Recased other) {name : String}
    (hname : name ∉ [Attribute.supportLevel, Attribute.architecture]) :
    other.productAttribute? name = pool.productAttribute? name := by
  rw [productAttribute?, productAttribute?, h.productAttributes.others name hname]

theorem sameOffer (h : pool.Recased other) : Native.SameOffer pool other where
  id := (congrArg PoolView.id h.others :)
  provides := (congrArg PoolView.provides h.others :)
  instant := (congrArg (·.endDate.instant) h.others :)

theorem available?_eq (h : pool.Recased other) : other.available? = pool.available? :=
  (congrArg PoolView.available? h.others :)

end PoolView.Recased

theorem ConsumerView.Recased.fact?_eq {consumer other : ConsumerView} (h : consumer.Recased other)
    {name : String} (hname : name ≠ Fact.architecture) : other.fact? name = consumer.fact? name :=
  h.facts.others name (by simpa using hname)

/-! ## Eligibility -/

namespace Native

variable {s t : SelectionSnapshot} {pool other : PoolView} {consumer stand : ConsumerView}

theorem isExempt_iff {level : String} :
    isExempt s level = true ↔ lower level ∈ s.exemptLevels.toList.map lower ∨
      lower level ∈ s.compliance.exemptServiceLevels.toList.map lower := by
  rw [isExempt, List.any_append, Bool.or_eq_true, List.any_eq_true, List.any_eq_true]
  simp only [Text.sameLetters_iff, List.mem_map]

theorem isExempt_of_recased (h : s.Recased t) {level again : String}
    (hlevel : lower again = lower level) : isExempt t again = isExempt s level := by
  rw [Bool.eq_iff_iff, isExempt_iff, isExempt_iff, hlevel, h.exemptLevels, h.exemptServiceLevels]

theorem serviceLevelMatches_of_recased (h : s.Recased t) (hpool : pool.Recased other) :
    serviceLevelMatches t other = serviceLevelMatches s pool := by
  have hwanted : lower (Text.trim t.consumer.serviceLevel) =
      lower (Text.trim s.consumer.serviceLevel) := by
    rw [Text.lower_trim, Text.lower_trim, h.consumer.serviceLevel]
  have hblank : (Text.trim t.consumer.serviceLevel == "") =
      (Text.trim s.consumer.serviceLevel == "") := by
    rw [Bool.eq_iff_iff, beq_iff_eq, beq_iff_eq, ← Text.lower_eq_empty_iff, hwanted,
      Text.lower_eq_empty_iff]
  rw [serviceLevelMatches, serviceLevelMatches, hblank, isExempt_of_recased h hwanted]
  obtain ⟨hbefore, hafter⟩ | ⟨offered, again, hbefore, hafter, hlevel⟩ :=
    none_or_some_of_map_eq (hpool.map_lower_eq Attribute.supportLevel)
  · rw [hbefore, hafter]
  · rw [hbefore, hafter]
    simp only [Text.sameLetters, hlevel, hwanted, isExempt_of_recased h hlevel]

/-- A list of architectures is compared with the one of a consumer in small letters. -/
theorem any_pieces_eq (supported present : String) :
    ((Text.pieces "," supported).any fun candidate =>
        Text.sameLetters (Text.trim candidate) "ALL" ||
          Text.sameLetters (Text.trim candidate) (Text.trim present)) =
      (Text.pieces "," (lower supported)).any fun candidate =>
        Text.trim candidate == lower "ALL" || Text.trim candidate == Text.trim (lower present) := by
  rw [← Text.map_lower_pieces, List.any_map]
  simp only [Function.comp_def, Text.sameLetters, Text.lower_trim]

theorem architectureMatches_of_recased (hconsumer : consumer.Recased stand)
    (hpool : pool.Recased other) :
    architectureMatches stand other "," = architectureMatches consumer pool "," := by
  rw [architectureMatches, architectureMatches]
  obtain ⟨hbefore, hafter⟩ | ⟨supported, again, hbefore, hafter, hsupported⟩ :=
    none_or_some_of_map_eq (hpool.map_lower_eq Attribute.architecture)
  · rw [hbefore, hafter]
  · obtain ⟨hown, hstand⟩ | ⟨present, repeated, hown, hstand, hpresent⟩ :=
      none_or_some_of_map_eq (hconsumer.facts.letters Fact.architecture)
    · rw [ConsumerView.fact?, ConsumerView.fact?, hown, hstand, hbefore, hafter]
    · rw [ConsumerView.fact?, ConsumerView.fact?, hown, hstand, hbefore, hafter]
      dsimp only
      rw [any_pieces_eq, any_pieces_eq, hsupported, hpresent]

theorem isEligible_of_recased (h : s.Recased t) (hseparator : s.separator = ",")
    (hpool : pool.Recased other) : isEligible t other = isEligible s pool := by
  rw [isEligible, isEligible, serviceLevelMatches_of_recased h hpool, h.separator, hseparator,
    architectureMatches_of_recased h.consumer hpool, hpool.available?_eq]

/-! ## Quantities -/

/-- No attribute and no fact that counts in a quantity may be in other letters. -/
theorem quantityFor_of_recased (hconsumer : consumer.Recased stand) (hpool : pool.Recased other) :
    quantityFor stand other = quantityFor consumer pool := by
  have hneeded : neededQuantity stand other = neededQuantity consumer pool := by
    rw [neededQuantity, neededQuantity, hpool.productAttribute?_eq (by decide),
      hpool.productAttribute?_eq (by decide), hconsumer.fact?_eq (by decide)]
  rw [quantityFor, quantityFor, hneeded, hpool.available?_eq]

/-! ## Selections -/

theorem targets_of_recased (settings : NativeSettings) (h : s.Recased t) :
    targets settings t = targets settings s := by
  simp only [targets, Compliance.isCovered, Compliance.coverage, h.products, h.coverage]

/-- In whichever letters service levels, exempt levels and architectures stand, the same pools are
selected in the same quantities and order, and the same is logged. -/
theorem select_of_recased (settings : NativeSettings) (h : s.Recased t)
    (hseparator : s.separator = ",") :
    select settings t = select settings s ∧ selectLog settings t = selectLog settings s := by
  refine select_of_forall₂ (targets_of_recased settings h) (h.pools.imp fun pool other hpool => ?_)
  exact { hpool.sameOffer with
    eligible := isEligible_of_recased h hseparator hpool
    quantity := quantityFor_of_recased h.consumer hpool }

/-- A pool that offers a level on some architectures. -/
def offering (id level architectures : String) : PoolView :=
  { PoolView.of (yearly id 5 ["web"]) with
    productAttributes := .ofList
      [(Attribute.supportLevel, level), (Attribute.architecture, architectures)] }

/-- One pool offers an exempt level, another one the level that is asked for, but on an architecture
that the consumer has not. -/
def lettered : SelectionSnapshot :=
  { overlapping with
    consumer := ⟨"c", .system, .ofList [(Fact.architecture, "x86_64")], .empty, "premium"⟩
    pools := [offering "arm" "premium" "aarch64", offering "gold" "Gold" "i686, X86_64"]
    products := ["web"].map .placeholder
    exemptLevels := .ofList ["GOLD", "gold"] }

/-- The level of one pool and the architecture of the other, all that the consumer says and the
exempt levels, of which one is left, stand in other letters. -/
def relettered : SelectionSnapshot :=
  { lettered with
    consumer := { lettered.consumer with
      facts := lettered.consumer.facts.insert Fact.architecture "X86_64"
      serviceLevel := "Premium" }
    pools := [
      { offering "arm" "premium" "aarch64" with
        productAttributes := (offering "arm" "premium" "aarch64").productAttributes.insert
          Attribute.architecture "AArch64" },
      { offering "gold" "Gold" "i686, X86_64" with
        productAttributes := (offering "gold" "Gold" "i686, X86_64").productAttributes.insert
          Attribute.supportLevel "GOLD" }]
    exemptLevels := .ofList (lettered.exemptLevels.toList.map fun _ => "Gold") }

theorem lettered_recased : lettered.Recased relettered where
  consumer := {
    facts := Table.recased_insert (by decide) (by decide : _ = some "x86_64") (by decide)
    serviceLevel := by decide
    others := rfl }
  pools := .cons
    { productAttributes :=
        Table.recased_insert (by decide) (by decide : _ = some "aarch64") (by decide)
      others := rfl }
    (.cons
      { productAttributes :=
          Table.recased_insert (by decide) (by decide : _ = some "Gold") (by decide)
        others := rfl }
      .nil)
  exemptLevels := NameSet.recased_ofList_map (by decide)
  exemptServiceLevels := fun _ => .rfl
  coverage := rfl
  products := rfl
  separator := rfl

theorem select_of_recased_relettered :
    lettered.Recased relettered ∧ relettered.exemptLevels = .ofList ["Gold"] ∧
      lettered.separator = "," ∧ select .default relettered = [⟨"gold", 1⟩] := by
  have hchosen : chosen .default lettered = [offering "gold" "Gold" "i686, X86_64"] :=
    choose_eq_singleton (by decide) (by decide)
  have hselect : select .default lettered = [⟨"gold", 1⟩] := by
    rw [select, hchosen]
    decide
  refine ⟨lettered_recased, by decide, rfl, ?_⟩
  exact (select_of_recased .default lettered_recased rfl).1.trans hselect

end Native

end Allotment
