import Allotment.Proofs.Text.Trimming
import Allotment.Proofs.Validation.Monotonicity

/-!
# What a verdict may depend on

The rules look at little of a consumer and a pool: whether the consumer is a manifest, four of its
capabilities and, unless it is a manifest, three of its facts; the id of the pool, what is left of
it, its attributes, and whether a product was derived from it. Requests that agree in this much come
to the same verdict, notices and parameters included (`validate_of_alike`), so nothing else that is
known of the two can have an influence.
-/

namespace Allotment

namespace Capability

/-- The capabilities that a rule asks for. -/
def asked : List String := [cores, ram, instanceMultiplier, derivedProduct]

end Capability

namespace Fact

/-- The facts that a rule asks for. -/
def asked : List String := [isGuest, architecture, cpuSockets]

end Fact

/-- The rules see no difference between the consumers. -/
structure Consumer.Alike (consumer other : Consumer) : Prop where
  manifest : other.isManifest = consumer.isManifest
  capabilities : ∀ name ∈ Capability.asked, other.hasCapability name = consumer.hasCapability name
  facts : consumer.isManifest = false → ∀ name ∈ Fact.asked,
    (other.fact? name).map Text.trim = (consumer.fact? name).map Text.trim

/-- The rules see no difference between the pools. -/
structure Pool.Alike (pool other : Pool) : Prop where
  id : other.id = pool.id
  quantity : other.quantity = pool.quantity
  consumed : other.consumed = pool.consumed
  derivedProduct : other.hasDerivedProduct = pool.hasDerivedProduct
  attributes : ∀ name, other.attribute? name = pool.attribute? name
  productAttributes : ∀ name, other.productAttribute? name = pool.productAttribute? name

namespace Consumer

theorem alike_trimmed (consumer : Consumer) : consumer.Alike consumer.trimmed where
  manifest := rfl
  capabilities _ _ := rfl
  facts _ name _ := consumer.map_trim_fact?_trimmed name

/-- Whatever else a manifest reports about itself, it is the same to the rules. -/
theorem alike_of_isManifest {consumer : Consumer} (h : consumer.isManifest = true)
    (facts : Table String) : consumer.Alike { consumer with facts := facts } where
  manifest := rfl
  capabilities _ _ := rfl
  facts hkind := by
    rw [h] at hkind
    cases hkind

end Consumer

namespace Pool

theorem alike_refl (pool : Pool) : pool.Alike pool :=
  ⟨rfl, rfl, rfl, rfl, fun _ => rfl, fun _ => rfl⟩

theorem alike_trimmed (pool : Pool) : pool.Alike pool.trimmed :=
  ⟨rfl, rfl, rfl, rfl, pool.attribute?_trimmed, pool.productAttribute?_trimmed⟩

end Pool

/-! ## Readers of facts and attributes -/

namespace Consumer.Alike

variable {consumer other : Consumer}

theorem isGuest (h : consumer.Alike other) (hkind : consumer.isManifest = false) :
    other.isGuest = consumer.isGuest := by
  have hread (c : Consumer) : c.isGuest =
      ((c.fact? Fact.isGuest).bind fun value =>
        some (Text.sameLetters (Text.trim value) "true")).getD false := by
    unfold Consumer.isGuest
    cases c.fact? Fact.isGuest <;> rfl
  rw [hread, hread, bind_eq_of_map_trim (by simp) (h.facts hkind _ (by decide))]

theorem sockets? (h : consumer.Alike other) (hkind : consumer.isManifest = false) :
    other.sockets? = consumer.sockets? :=
  bind_eq_of_map_trim readPositive?_trim (h.facts hkind _ (by decide))

end Consumer.Alike

namespace Pool.Alike

variable {pool other : Pool}

theorem flag (h : pool.Alike other) (name : String) : other.flag name = pool.flag name := by
  rw [Pool.flag, Pool.flag, h.attributes, h.productAttributes]

theorem isDerived (h : pool.Alike other) : other.isDerived = pool.isDerived := by
  rw [Pool.isDerived, Pool.isDerived, h.attributes]

theorem requiresHost (h : pool.Alike other) : other.requiresHost = pool.requiresHost := by
  rw [Pool.requiresHost, Pool.requiresHost, h.attributes]

theorem isUnlimited (h : pool.Alike other) : other.isUnlimited = pool.isUnlimited := by
  rw [Pool.isUnlimited, Pool.isUnlimited, h.quantity]

theorem remaining (h : pool.Alike other) : other.remaining = pool.remaining := by
  rw [Pool.remaining, Pool.remaining, h.quantity, h.consumed]

theorem sockets? (h : pool.Alike other) : other.sockets? = pool.sockets? := by
  rw [Pool.sockets?, Pool.sockets?, h.productAttributes]

theorem multiplier? (h : pool.Alike other) : other.multiplier? = pool.multiplier? := by
  rw [Pool.multiplier?, Pool.multiplier?, h.productAttributes]

theorem against (h : pool.Alike other) (rule : Rule) : rule.against other = rule.against pool := by
  rw [Rule.against, Rule.against, h.id]

end Pool.Alike

/-! ## Rules -/

namespace Request

variable {consumer other : Consumer} {pool rival : Pool}

theorem lacks_of_alike (hconsumer : consumer.Alike other) (hpool : pool.Alike rival)
    (quantity : UInt32) (need : String) {capability : String}
    (hcapability : capability ∈ Capability.asked) :
    lacks ⟨other, rival, quantity⟩ need capability =
      lacks ⟨consumer, pool, quantity⟩ need capability := by
  rw [lacks, lacks, hpool.productAttributes, hconsumer.capabilities capability hcapability]

theorem coveredSockets_of_alike (consumer other : Consumer) (hpool : pool.Alike rival)
    (quantity : UInt32) (sockets : Nat) :
    coveredSockets ⟨other, rival, quantity⟩ sockets =
      coveredSockets ⟨consumer, pool, quantity⟩ sockets := by
  rw [coveredSockets, coveredSockets, Pool.stackingId?, Pool.stackingId?,
    hpool.productAttributes]

theorem checkSockets_of_alike (hconsumer : consumer.Alike other) (hpool : pool.Alike rival)
    (quantity : UInt32) :
    checkSockets ⟨other, rival, quantity⟩ = checkSockets ⟨consumer, pool, quantity⟩ := by
  rw [checkSockets, checkSockets, hconsumer.manifest]
  cases hkind : consumer.isManifest with
  | true => rfl
  | false =>
      rw [← Pool.sockets?, ← Pool.sockets?, ← Consumer.sockets?, ← Consumer.sockets?,
        hpool.sockets?, hconsumer.sockets? hkind]
      refine Option.bind_congr fun sockets _ => Option.bind_congr fun present _ => ?_
      dsimp only
      rw [coveredSockets_of_alike consumer other hpool, hpool.id]

theorem checkArchitecture_of_alike (hconsumer : consumer.Alike other) (hpool : pool.Alike rival)
    (quantity : UInt32) :
    checkArchitecture ⟨other, rival, quantity⟩ =
      checkArchitecture ⟨consumer, pool, quantity⟩ := by
  rw [checkArchitecture, checkArchitecture, hconsumer.manifest, hpool.productAttributes]
  cases hkind : consumer.isManifest with
  | true => rfl
  | false =>
      refine Option.bind_congr fun supported _ => ?_
      dsimp only
      rw [hpool.id]
      exact bind_eq_of_map_trim (by simp) (hconsumer.facts hkind _ (by decide))

theorem checkVirtOnly_of_alike (hconsumer : consumer.Alike other) (hpool : pool.Alike rival)
    (quantity : UInt32) :
    checkVirtOnly ⟨other, rival, quantity⟩ = checkVirtOnly ⟨consumer, pool, quantity⟩ := by
  rw [checkVirtOnly, checkVirtOnly, hconsumer.manifest, Pool.isVirtOnly, Pool.isVirtOnly,
    hpool.flag, hpool.against]
  cases hkind : consumer.isManifest with
  | true => rfl
  | false => rw [hconsumer.isGuest hkind]

theorem checkPhysicalOnly_of_alike (hconsumer : consumer.Alike other) (hpool : pool.Alike rival)
    (quantity : UInt32) :
    checkPhysicalOnly ⟨other, rival, quantity⟩ =
      checkPhysicalOnly ⟨consumer, pool, quantity⟩ := by
  rw [checkPhysicalOnly, checkPhysicalOnly, hconsumer.manifest, Pool.isPhysicalOnly,
    Pool.isPhysicalOnly, hpool.flag, hpool.against]
  cases hkind : consumer.isManifest with
  | true => rfl
  | false => rw [hconsumer.isGuest hkind]

theorem checkInstanceQuantity_of_alike (hconsumer : consumer.Alike other)
    (hpool : pool.Alike rival) (quantity : UInt32) :
    checkInstanceQuantity ⟨other, rival, quantity⟩ =
      checkInstanceQuantity ⟨consumer, pool, quantity⟩ := by
  rw [checkInstanceQuantity, checkInstanceQuantity, hconsumer.manifest, ← Pool.multiplier?,
    ← Pool.multiplier?, hpool.multiplier?, hpool.id]
  cases hkind : consumer.isManifest with
  | true => rfl
  | false => rw [hconsumer.isGuest hkind]

/-- Each rule finds the same. Rules that look at a fact find nothing for manifests, so the facts are
compared for the other consumers only. -/
theorem check_of_alike (hconsumer : consumer.Alike other) (hpool : pool.Alike rival)
    (quantity : UInt32) (rule : Rule) :
    check ⟨other, rival, quantity⟩ rule = check ⟨consumer, pool, quantity⟩ rule := by
  have hlacks := @lacks_of_alike consumer other pool rival hconsumer hpool quantity
  cases rule with
  | coresCapability =>
      change checkCores _ = checkCores _
      rw [checkCores, checkCores, hlacks _ (by decide), hpool.against]
  | ramCapability =>
      change checkRam _ = checkRam _
      rw [checkRam, checkRam, hlacks _ (by decide), hpool.against]
  | instanceCapability =>
      change checkInstances _ = checkInstances _
      rw [checkInstances, checkInstances, hlacks _ (by decide), hpool.against]
  | derivedProductCapability =>
      change checkDerivedProduct _ = checkDerivedProduct _
      rw [checkDerivedProduct, checkDerivedProduct, hpool.derivedProduct, hpool.against,
        hconsumer.capabilities _ (by decide)]
  | manifestVirtRestriction =>
      change checkManifest _ = checkManifest _
      rw [checkManifest, checkManifest, hconsumer.manifest, Pool.isVirtOnly, Pool.isVirtOnly,
        hpool.flag, hpool.isDerived, hpool.requiresHost, hpool.against]
  | quantityAvailable =>
      change checkQuantity _ = checkQuantity _
      rw [checkQuantity, checkQuantity]
      dsimp only
      rw [hpool.isUnlimited, hpool.remaining, hpool.id]
  | socketCoverage => exact checkSockets_of_alike hconsumer hpool quantity
  | architectureMismatch => exact checkArchitecture_of_alike hconsumer hpool quantity
  | virtOnly => exact checkVirtOnly_of_alike hconsumer hpool quantity
  | physicalOnly => exact checkPhysicalOnly_of_alike hconsumer hpool quantity
  | instanceQuantityMismatch => exact checkInstanceQuantity_of_alike hconsumer hpool quantity

theorem findings_of_alike (hconsumer : consumer.Alike other) (hpool : pool.Alike rival)
    (quantity : UInt32) :
    findings ⟨other, rival, quantity⟩ = findings ⟨consumer, pool, quantity⟩ := by
  rw [findings_eq, findings_eq]
  exact List.filterMap_congr fun rule _ => check_of_alike hconsumer hpool quantity rule

/-- Two requests for one quantity come to the same verdict if their consumers and their pools differ
in nothing that a rule asks for. So blanks around facts and attributes have no influence, and what a
manifest reports about itself has none at all. -/
theorem validate_of_alike (consumer : Consumer) (pool : Pool) (quantity : UInt32)
    (caller : Caller) :
    let verdict := validate ⟨consumer, pool, quantity⟩ caller
    (∀ (other : Consumer) (rival : Pool), consumer.Alike other → pool.Alike rival →
      validate ⟨other, rival, quantity⟩ caller = verdict) ∧
    validate ⟨consumer.trimmed, pool.trimmed, quantity⟩ caller = verdict ∧
    (consumer.isManifest = true → ∀ facts : Table String,
      validate ⟨{ consumer with facts := facts }, pool, quantity⟩ caller = verdict) := by
  intro verdict
  have hsame (other : Consumer) (rival : Pool) (hconsumer : consumer.Alike other)
      (hpool : pool.Alike rival) : validate ⟨other, rival, quantity⟩ caller = verdict :=
    congrArg (Verdict.ofFindings · caller) (findings_of_alike hconsumer hpool quantity)
  refine ⟨hsame, hsame _ _ consumer.alike_trimmed pool.alike_trimmed, fun hkind facts => ?_⟩
  exact hsame _ _ (Consumer.alike_of_isManifest hkind facts) pool.alike_refl

/-- A virtual machine with four sockets that calls itself a system. -/
def machine : Consumer :=
  ⟨"c", .system, .ofList [(Fact.isGuest, " True"), (Fact.cpuSockets, "4 ")],
    .ofList [Capability.cores], none⟩

/-- The same machine under another id, which calls itself a hypervisor and has more to tell. -/
def talkative : Consumer :=
  ⟨"d", .hypervisor, .ofList [(Fact.isGuest, "True"), (Fact.cpuSockets, "\t4"),
    (Fact.certificateVersion, "3.2")], .ofList [Capability.cores, "gold"], some "premium"⟩

/-- A pool for physical machines with two sockets, whose product needs memory. -/
def physical : Pool :=
  { Native.yearly "physical" 5 ["web"] with
    productAttributes := .ofList [(Attribute.physicalOnly, " 1"), (Attribute.sockets, "2 "),
      (Attribute.ram, "64")] }

/-- The same pool for other products and for a single day, without the blanks. -/
def sameDay : Pool :=
  { physical.trimmed with
    providedProducts := [⟨"db", "Database"⟩]
    startDate := physical.endDate }

theorem validate_of_alike_talkative :
    machine.Alike talkative ∧ physical.Alike sameDay ∧
      validate ⟨talkative, sameDay, 1⟩ .bind =
        ⟨[⟨"rulefailed.ram.unsupported.by.consumer", ["physical"]⟩,
          ⟨"rulefailed.physical.only", ["physical"]⟩],
         [⟨"rulewarning.unsupported.number.of.sockets", ["physical", "4", "2"]⟩]⟩ := by
  have hconsumer : machine.Alike talkative :=
    ⟨by decide, by decide, fun _ => by decide⟩
  have hpool : physical.Alike sameDay :=
    ⟨rfl, rfl, rfl, rfl, physical.attribute?_trimmed, physical.productAttribute?_trimmed⟩
  refine ⟨hconsumer, hpool, ?_⟩
  rw [(validate_of_alike machine physical 1 .bind).1 talkative sameDay hconsumer hpool]
  decide

end Request

end Allotment
