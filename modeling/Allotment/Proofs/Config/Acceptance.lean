import Allotment.Proofs.Config.Placement
import Allotment.Proofs.Document.Json5Amounts

/-!
# What an accepted configuration comes to

The schema and the reader describe configuration files independently of each other. They agree on
the kinds of all values and on all words, but for numbers: a whole number written with a point or
an exponent passes the schema, and no reader takes it. This is the only way in which a file that
the schema accepts is not loaded (`load_accepted_iff`).
-/

namespace Allotment

/-- A value that is there leads to one, if what follows leads to one whatever the value is. -/
theorem isSome_bind_iff {α β : Type} {x : Option α} {f : α → Option β} {q : Prop}
    (h : ∀ a, (f a).isSome = true ↔ q) :
    (x.bind f).isSome = true ↔ x.isSome = true ∧ q := by
  cases x with
  | none => simp
  | some a => simpa using h a

namespace Document

theorem isSome_optional_entries {α : Type} {t : Table Document} {name : String} {default : α}
    {read : Document → Option α} :
    (optional name t.entries default read).isSome = true ↔
      ∀ v, t.get? name = some v → (read v).isSome = true := by
  rw [optional_entries]
  cases t.get? name <;> simp

def isReal : Document → Bool
  | real _ => true
  | _ => false

theorem isReal_iff {d : Document} : d.isReal = true ↔ ∃ x, d = real x := by
  cases d <;> simp [isReal]

end Document

namespace Schema

open Document

variable {d v : Document}

/-- A record in order that a schema accepts, as a table of acceptable values. -/
theorem exists_table_of_accepts {properties : List (String × Schema)} (horder : Orderly d)
    (h : (closed properties).accepts d = true) :
    ∃ t : Table Document, d = .record t.entries ∧
      (∀ name v, t.get? name = some v → Orderly v) ∧
      ∀ p ∈ properties, ∀ v, t.get? p.1 = some v → p.2.accepts v = true := by
  obtain ⟨members, rfl, -, hproperties⟩ := accepts_closed_iff.mp h
  cases horder with
  | record t ht =>
      refine ⟨t, rfl, ht, fun p hp v hv => hproperties p hp v ?_⟩
      rw [member?_entries]
      exact hv

theorem isSome_readText? (h : nonEmptyText.accepts v = true) : (readText? v).isSome = true := by
  obtain ⟨s, rfl, -⟩ := accepts_nonEmptyText_iff.mp h
  rfl

theorem isSome_readBool? (h : switch.accepts v = true) : (readBool? v).isSome = true := by
  obtain ⟨b, rfl⟩ := accepts_switch_iff.mp h
  rfl

theorem isSome_readWord? {α : Type} {words : List String} {meaning : String → Option α}
    (hmeaning : ∀ word ∈ words, (meaning word).isSome = true)
    (h : (oneOf words).accepts v = true) : (readWord? meaning v).isSome = true := by
  obtain ⟨word, hword, rfl⟩ := accepts_oneOf_iff.mp h
  exact hmeaning word hword

/-- An acceptable number is read unless it is written with a point or an exponent. -/
theorem isSome_readSize?_iff {least : Int} (hleast : 0 ≤ least) (horder : Orderly v)
    (h : (wholeFrom least).accepts v = true) :
    (readSize? v).isSome = true ↔ ∀ x, v ≠ .real x := by
  rcases accepts_wholeFrom_iff.mp h with ⟨n, rfl, hn⟩ | ⟨x, rfl, -, -⟩
  · cases horder with
    | integer a =>
        have hgreatest := a.le_greatest
        rw [readSize?_integer (by omega) (by omega)]
        simp
  · simp [readSize?, readBelow?]

end Schema

open Document Schema

/-! ## The sections -/

section
variable {d : Document}

theorem LoggingSettings.isSome_ofDocument?_iff (horder : Orderly d)
    (h : Config.loggingSchema.accepts d = true) :
    (ofDocument? d).isSome = true ↔ ∀ x, member? "retention_days" d ≠ some (.real x) := by
  obtain ⟨t, rfl, hvalues, hfields⟩ := exists_table_of_accepts horder h
  simp only [List.forall_mem_cons] at hfields
  obtain ⟨hdirectory, hfilter, hretention, hrotation, hwarns, -⟩ := hfields
  have hfields : (ofDocument? (.record t.entries)).isSome = true ↔ _ ∧ _ ∧ _ ∧ _ ∧ _ ∧ True :=
    isSome_bind_iff fun _ => isSome_bind_iff fun _ => isSome_bind_iff fun _ =>
      isSome_bind_iff fun _ => isSome_bind_iff fun _ => iff_of_true rfl trivial
  rw [hfields, member?_entries]
  simp only [isSome_optional_entries]
  constructor
  · rintro ⟨-, -, -, hread, -⟩ x hx
    exact (isSome_readSize?_iff (by decide) (hvalues _ _ hx) (hretention _ hx)).mp
      (hread _ hx) x rfl
  · intro hwhole
    refine ⟨fun v hv => isSome_readText? (hdirectory v hv),
      fun v hv => isSome_readText? (hfilter v hv),
      fun v hv => isSome_readWord? (by decide) (hrotation v hv), fun v hv => ?_,
      fun v hv => isSome_readBool? (hwarns v hv), trivial⟩
    rw [isSome_readSize?_iff (by decide) (hvalues _ _ hv) (hretention v hv)]
    rintro x rfl
    exact hwhole x hv

theorem BindingSettings.isSome_ofDocument?_iff (horder : Orderly d)
    (h : Config.bindingSchema.accepts d = true) :
    (ofDocument? d).isSome = true ↔ ∀ x, member? "v1_content_limit" d ≠ some (.real x) := by
  obtain ⟨t, rfl, hvalues, hfields⟩ := exists_table_of_accepts horder h
  have hlimit := List.forall_mem_singleton.mp hfields
  have hsome : (ofDocument? (.record t.entries)).isSome = true ↔ _ ∧ True :=
    isSome_bind_iff fun _ => iff_of_true rfl trivial
  rw [hsome, member?_entries, isSome_optional_entries]
  constructor
  · rintro ⟨hread, -⟩ x hx
    exact (isSome_readSize?_iff (Int.le_refl 0) (hvalues _ _ hx) (hlimit _ hx)).mp (hread _ hx) x rfl
  · intro hwhole
    refine ⟨fun v hv => ?_, trivial⟩
    rw [isSome_readSize?_iff (Int.le_refl 0) (hvalues _ _ hv) (hlimit v hv)]
    rintro x rfl
    exact hwhole x hv

theorem NativeSettings.isSome_ofDocument? (horder : Orderly d)
    (h : Config.nativeSchema.accepts d = true) : (ofDocument? d).isSome = true := by
  obtain ⟨t, rfl, -, hfields⟩ := exists_table_of_accepts horder h
  have hskips := List.forall_mem_singleton.mp hfields
  have hsome : (ofDocument? (.record t.entries)).isSome = true ↔ _ ∧ True :=
    isSome_bind_iff fun _ => iff_of_true rfl trivial
  rw [hsome, isSome_optional_entries]
  exact ⟨fun v hv => isSome_readBool? (hskips v hv), trivial⟩

theorem PolicySettings.isSome_ofDocument? (horder : Orderly d)
    (h : Config.policySchema.accepts d = true) : (ofDocument? d).isSome = true := by
  obtain ⟨t, rfl, hvalues, hfields⟩ := exists_table_of_accepts horder h
  simp only [List.forall_mem_cons] at hfields
  obtain ⟨hmode, hnative, -⟩ := hfields
  have hsome : (ofDocument? (.record t.entries)).isSome = true ↔ _ ∧ _ ∧ True :=
    isSome_bind_iff fun _ => isSome_bind_iff fun _ => iff_of_true rfl trivial
  rw [hsome, isSome_optional_entries, isSome_optional_entries]
  exact ⟨fun v hv => isSome_readWord? (by decide) (hmode v hv),
    fun v hv => NativeSettings.isSome_ofDocument? (hvalues _ _ hv) (hnative v hv), trivial⟩

end

/-! ## Whole files -/

namespace Config

variable {d : Document}

/-- The value of a field in a section. -/
def fieldIn? (part field : String) (d : Document) : Option Document :=
  (member? part d).bind (member? field)

/-- One of the two numbers of a configuration is written with a point or an exponent. -/
def WritesReal (d : Document) : Prop :=
  ∃ x, fieldIn? "logging" "retention_days" d = some (.real x) ∨
    fieldIn? "autobind" "v1_content_limit" d = some (.real x)

instance : DecidablePred WritesReal := fun d =>
  decidable_of_iff ((fieldIn? "logging" "retention_days" d).any isReal = true ∨
      (fieldIn? "autobind" "v1_content_limit" d).any isReal = true) <| by
    have hany (v : Option Document) : v.any isReal = true ↔ ∃ x, v = some (.real x) := by
      cases v <;> simp [isReal_iff]
    rw [WritesReal, exists_or, hany, hany]

theorem not_writesReal_iff :
    ¬ WritesReal d ↔
      (∀ v, member? "logging" d = some v → ∀ x, member? "retention_days" v ≠ some (.real x)) ∧
      ∀ v, member? "autobind" d = some v → ∀ x, member? "v1_content_limit" v ≠ some (.real x) := by
  simp only [WritesReal, fieldIn?, Option.bind_eq_some_iff, not_exists, not_or, not_and]
  constructor
  · intro h
    exact ⟨fun v hv x => (h x).1 v hv, fun v hv x => (h x).2 v hv⟩
  · rintro ⟨hlogging, hbinding⟩ x
    exact ⟨fun v hv => hlogging v hv x, fun v hv => hbinding v hv x⟩

theorem isSome_ofDocument?_iff (horder : Orderly d) (h : schema.accepts d = true) :
    (ofDocument? d).isSome = true ↔ ¬ WritesReal d := by
  rw [schema_eq] at h
  obtain ⟨t, rfl, hvalues, hfields⟩ := exists_table_of_accepts horder h
  simp only [List.forall_mem_cons] at hfields
  obtain ⟨-, hbinding, hlogging, hpolicy, -⟩ := hfields
  have hsome : (ofDocument? (.record t.entries)).isSome = true ↔ _ ∧ _ ∧ _ ∧ True :=
    isSome_bind_iff fun _ => isSome_bind_iff fun _ => isSome_bind_iff fun _ =>
      iff_of_true rfl trivial
  rw [hsome, not_writesReal_iff, member?_entries, member?_entries]
  simp only [isSome_optional_entries]
  have hpolicies (v : Document) (hv : t.get? "policy" = some v) :
      (PolicySettings.ofDocument? v).isSome = true :=
    PolicySettings.isSome_ofDocument? (hvalues _ _ hv) (hpolicy v hv)
  constructor
  · rintro ⟨hloggings, hbindings, -⟩
    exact ⟨fun v hv => (LoggingSettings.isSome_ofDocument?_iff (hvalues _ _ hv)
        (hlogging v hv)).mp (hloggings v hv),
      fun v hv => (BindingSettings.isSome_ofDocument?_iff (hvalues _ _ hv)
        (hbinding v hv)).mp (hbindings v hv)⟩
  · rintro ⟨hloggings, hbindings⟩
    exact ⟨fun v hv => (LoggingSettings.isSome_ofDocument?_iff (hvalues _ _ hv)
        (hlogging v hv)).mpr (hloggings v hv),
      fun v hv => (BindingSettings.isSome_ofDocument?_iff (hvalues _ _ hv)
        (hbinding v hv)).mpr (hbindings v hv), hpolicies, trivial⟩

/-- A file without the name of a schema whose text the schema accepts is loaded, unless it writes
one of its two numbers with a point or an exponent. Then it passes the schema and is found to be
malformed. -/
theorem load_accepted_iff {t : FileTree} {path text : String} {d : Document}
    (hplaced : Placed t path text) (hread : Document.ofJson5? text = some d)
    (haccepts : schema.accepts d = true) (hunnamed : member? "$schema" d = none) :
    let loading : Except ConfigError Config × FileTree :=
      (load path : StateM FileTree (Except ConfigError Config)) t
    ((∃ c, loading = (.ok c, t)) ↔ ¬ WritesReal d) ∧
      (WritesReal d → loading = (.error .malformed, t)) := by
  intro loading
  have hloading : loading = _ := load_of_placed hplaced hread hunnamed
  have hiff := isSome_ofDocument?_iff (orderly_of_ofJson5? hread) haccepts
  rw [hloading, ofParsed_of_accepts haccepts]
  cases hsettings : ofDocument? d with
  | none =>
      have hreal : WritesReal d := by simpa [hsettings] using hiff
      exact ⟨iff_of_false (by simp) (not_not_intro hreal), fun _ => rfl⟩
  | some c =>
      have hwhole : ¬ WritesReal d := by simpa [hsettings] using hiff
      exact ⟨iff_of_true ⟨_, rfl⟩ hwhole, fun hreal => absurd hreal hwhole⟩

/-- The number of days as the schema writes it is loaded. -/
theorem load_accepted_whole :
    let text := "\x7blogging: \x7bretention_days: 7\x7d\x7d"
    let t := workspace text schemaText
    ∃ d, Placed t "entitler.jsonc" text ∧ Document.ofJson5? text = some d ∧
      schema.accepts d = true ∧ member? "$schema" d = none ∧
      ∃ c, (load "entitler.jsonc" : StateM FileTree (Except ConfigError Config)) t = (.ok c, t) := by
  intro text t
  have hplaced : Placed t "entitler.jsonc" text := placed_workspace ofJson?_schemaText text
  have hread : (Document.ofJson5? text).any (fun d => schema.accepts d &&
      (member? "$schema" d).isNone && !decide (WritesReal d)) = true := by
    decide +kernel
  obtain ⟨d, hd, htests⟩ := (Option.any_eq_true _ _).mp hread
  simp only [Bool.and_eq_true, Option.isNone_iff_eq_none, Bool.not_eq_true',
    decide_eq_false_iff_not] at htests
  obtain ⟨⟨haccepts, hunnamed⟩, hwhole⟩ := htests
  exact ⟨d, hplaced, hd, haccepts, hunnamed,
    (load_accepted_iff hplaced hd haccepts hunnamed).1.mpr hwhole⟩

/-- With a point behind it the same number is accepted and not loaded. -/
theorem accepted_not_loaded :
    ¬ ∀ (t : FileTree) (path text : String) (d : Document), Placed t path text →
      Document.ofJson5? text = some d → schema.accepts d = true →
      member? "$schema" d = none →
      ∃ c, ((load path : StateM FileTree (Except ConfigError Config)) t).1 = .ok c := by
  intro hclaim
  let text := "\x7blogging: \x7bretention_days: 14.0\x7d\x7d"
  have hplaced := placed_workspace ofJson?_schemaText text
  have hread : (Document.ofJson5? text).any (fun d => schema.accepts d &&
      (member? "$schema" d).isNone && (ofDocument? d).isNone) = true := by
    decide +kernel
  obtain ⟨d, hd, htests⟩ := (Option.any_eq_true _ _).mp hread
  simp only [Bool.and_eq_true, Option.isNone_iff_eq_none] at htests
  obtain ⟨⟨haccepts, hunnamed⟩, hmalformed⟩ := htests
  obtain ⟨c, hc⟩ := hclaim _ _ text d hplaced hd haccepts hunnamed
  rw [load_of_placed hplaced hd hunnamed, ofParsed_of_accepts haccepts, hmalformed] at hc
  cases hc

end Config

end Allotment
