import Allotment.Proofs.Config.Placement
import Allotment.Proofs.Document.Abridgement
import Allotment.Proofs.Document.Json5Reading

/-!
# Configurations written without their defaults

What a configuration writes may be cut down to what is not default, in each of its sections, and
its members may stand in any order. The schema lets every such file through, and it is loaded as
the configuration (`load_abridged`).
-/

namespace Allotment

open Document Schema

/-! ## Fields -/

theorem restores_text {default s : String} (h : s ≠ "") :
    Restores nonEmptyText readText? text default s :=
  restores_of_isLeaf (fun _ => rfl) (fun _ => rfl) (accepts_nonEmptyText_iff.mpr ⟨s, rfl, h⟩)

theorem restores_bool (default b : Bool) : Restores switch readBool? bool default b :=
  restores_of_isLeaf (fun _ => rfl) (fun _ => rfl) (accepts_switch_iff.mpr ⟨b, rfl⟩)

theorem restores_size {least : Int} {default n : UInt64} (h : least ≤ n.toNat) :
    Restores (wholeFrom least) readSize? ofSize default n :=
  restores_of_isLeaf (fun _ => rfl) readSize?_ofSize
    (accepts_wholeFrom_iff.mpr (.inl ⟨_, rfl, h⟩))

theorem restores_word {α : Type} {words : List String} {word : α → String}
    {meaning : String → Option α} (hmeaning : ∀ a, meaning (word a) = some a) {default a : α}
    (h : word a ∈ words) :
    Restores (oneOf words) (readWord? meaning) (fun a => text (word a)) default a :=
  restores_of_isLeaf (fun _ => rfl) hmeaning (accepts_oneOf_iff.mpr ⟨_, h, rfl⟩)

/-! ## Sections -/

theorem BindingSettings.restores (s : BindingSettings) :
    Restores Config.bindingSchema ofDocument? toDocument default s := by
  refine restores_record (fun s : BindingSettings => [("v1_content_limit", .ofSize s.contentLimit)])
    ["v1_content_limit"] (fun _ => rfl) (by decide) (by simp) rfl fun t _ hkeeps => ?_
  obtain ⟨hlimit, -⟩ := List.forall₂_cons.mp hkeeps
  have hsize : Restores (wholeFrom 0) readSize? ofSize default.contentLimit s.contentLimit :=
    restores_size (Int.natCast_nonneg _)
  constructor
  · exact List.forall_mem_singleton.mpr (hsize.accepts_of_keeps hlimit)
  · rw [ofDocument?]
    simp [readMembers?, hsize.optional_eq hlimit]

theorem NativeSettings.restores (s : NativeSettings) :
    Restores Config.nativeSchema ofDocument? toDocument default s := by
  refine restores_record
    (fun s : NativeSettings => [("skip_covered_products", .bool s.skipCoveredProducts)])
    ["skip_covered_products"] (fun _ => rfl) (by decide) (by simp) rfl fun t _ hkeeps => ?_
  obtain ⟨hskip, -⟩ := List.forall₂_cons.mp hkeeps
  have hbool := restores_bool default.skipCoveredProducts s.skipCoveredProducts
  constructor
  · exact List.forall_mem_singleton.mpr (hbool.accepts_of_keeps hskip)
  · rw [ofDocument?]
    simp [readMembers?, hbool.optional_eq hskip]

theorem PolicySettings.restores (s : PolicySettings) :
    Restores Config.policySchema ofDocument? toDocument default s := by
  refine restores_record
    (fun s : PolicySettings => [("mode", .text s.mode.word), ("native", s.native.toDocument)])
    ["mode", "native"] (fun _ => rfl) (by decide) (by simp) rfl fun t _ hkeeps => ?_
  obtain ⟨hmode, hkeeps⟩ := List.forall₂_cons.mp hkeeps
  obtain ⟨hnative, -⟩ := List.forall₂_cons.mp hkeeps
  have hword : Restores (oneOf ["native", "unconfigured"]) (readWord? PolicyMode.ofWord?)
      (fun mode => .text mode.word) default.mode s.mode :=
    restores_word PolicyMode.ofWord?_word (by cases s.mode <;> decide)
  have hsettings : Restores Config.nativeSchema NativeSettings.ofDocument?
      NativeSettings.toDocument default.native s.native := s.native.restores
  constructor
  · simp only [List.forall_mem_cons]
    exact ⟨hword.accepts_of_keeps hmode, hsettings.accepts_of_keeps hnative, by simp⟩
  · rw [ofDocument?]
    simp [readMembers?, hword.optional_eq hmode, hsettings.optional_eq hnative]

/-- The schema wants at least one day to be kept, and texts that are not empty. -/
theorem LoggingSettings.restores {s : LoggingSettings} (hretention : 1 ≤ s.retentionDays.toNat)
    (hfilter : s.filter ≠ "") (hdirectory : s.directory ≠ "") :
    Restores Config.loggingSchema ofDocument? toDocument default s := by
  refine restores_record
    (fun s : LoggingSettings => [("dir", .text s.directory), ("filter", .text s.filter),
      ("rotation", .text s.rotation.word), ("retention_days", .ofSize s.retentionDays),
      ("stderr_warn_enabled", .bool s.warnsOnStderr)])
    ["dir", "filter", "rotation", "retention_days", "stderr_warn_enabled"] (fun _ => rfl)
    (by decide) (by simp) rfl fun t _ hkeeps => ?_
  simp only [List.forall₂_cons] at hkeeps
  obtain ⟨hdir, hfil, hrot, hret, hwarn, -⟩ := hkeeps
  have hdirectory : Restores nonEmptyText readText? .text default.directory s.directory :=
    restores_text hdirectory
  have hfilter : Restores nonEmptyText readText? .text default.filter s.filter :=
    restores_text hfilter
  have hrotation : Restores (oneOf ["daily", "hourly"]) (readWord? LogRotation.ofWord?)
      (fun rotation => .text rotation.word) default.rotation s.rotation :=
    restores_word LogRotation.ofWord?_word (by cases s.rotation <;> decide)
  have hdays : Restores (wholeFrom 1) readSize? ofSize default.retentionDays s.retentionDays :=
    restores_size (Int.ofNat_le.mpr hretention)
  have hwarns := restores_bool default.warnsOnStderr s.warnsOnStderr
  constructor
  · simp only [List.forall_mem_cons]
    exact ⟨hdirectory.accepts_of_keeps hdir, hfilter.accepts_of_keeps hfil,
      hdays.accepts_of_keeps hret, hrotation.accepts_of_keeps hrot,
      hwarns.accepts_of_keeps hwarn, by simp⟩
  · rw [ofDocument?]
    simp [readMembers?, hdirectory.optional_eq hdir, hfilter.optional_eq hfil,
      hrotation.optional_eq hrot, hdays.optional_eq hret, hwarns.optional_eq hwarn]

/-! ## Whole files -/

namespace Config

/-- Every section is as the file formats can hold it: the numbers of days and of contents are
amounts, at least one day is kept, and the texts of the log are not empty. -/
structure Writable (c : Config) : Prop where
  one_le_retention : 1 ≤ c.logging.retentionDays.toNat
  retention_le : c.logging.retentionDays.toNat ≤ 9223372036854775807
  limit_le : c.binding.contentLimit.toNat ≤ 9223372036854775807
  filter_ne : c.logging.filter ≠ ""
  directory_ne : c.logging.directory ≠ ""

variable {c : Config} {d : Document}

theorem Writable.restores (h : Writable c) : Restores schema ofDocument? toDocument default c := by
  rw [schema_eq]
  refine restores_record
    (fun c : Config => [("logging", c.logging.toDocument), ("autobind", c.binding.toDocument),
      ("policy", c.policy.toDocument)])
    ["logging", "autobind", "policy"] (fun _ => rfl) (by decide) (by simp) rfl
    fun t hmissing hkeeps => ?_
  simp only [List.forall₂_cons] at hkeeps
  obtain ⟨hlog, hbind, hpol, -⟩ := hkeeps
  have hlogging : Restores loggingSchema LoggingSettings.ofDocument? LoggingSettings.toDocument
      LoggingSettings.default c.logging :=
    LoggingSettings.restores h.one_le_retention h.filter_ne h.directory_ne
  have hbinding := c.binding.restores
  have hpolicy := c.policy.restores
  have hschema : t.get? "$schema" = none := hmissing "$schema" (by decide)
  constructor
  · simp only [List.forall_mem_cons]
    exact ⟨by simp [hschema], hbinding.accepts_of_keeps hbind, hlogging.accepts_of_keeps hlog,
      hpolicy.accepts_of_keeps hpol, by simp⟩
  · rw [ofDocument?]
    simp [readMembers?, hlogging.optional_eq hlog, hbinding.optional_eq hbind,
      hpolicy.optional_eq hpol]

/-- No schema is named in what is left of a configuration. -/
theorem member?_schema_of_abridges (hd : Abridges default.toDocument c.toDocument d) :
    member? "$schema" d.normalise = none := by
  obtain ⟨t, hnormal, hnames, -⟩ := exists_table_of_abridges hd rfl
    (by simp : ["logging", "autobind", "policy"].Nodup)
  rw [hnormal, member?_entries]
  refine Option.eq_none_iff_forall_ne_some.mpr fun v hv => ?_
  exact absurd (hnames "$schema" v hv) (by simp)

theorem Writable.isPlain (h : Writable c) : c.toDocument.isPlain = true := by
  have hretention := h.retention_le
  have hlimit := h.limit_le
  simp [toDocument, LoggingSettings.toDocument, BindingSettings.toDocument,
    PolicySettings.toDocument, NativeSettings.toDocument, ofSize, Document.isPlain, havePlain]
  omega

theorem relocated_eq (base : String) (c : Config) :
    c.relocated base = { c with
      logging.directory := if Path.isAbsolute c.logging.directory then c.logging.directory
        else Path.join base c.logging.directory } := by
  by_cases habsolute : Path.isAbsolute c.logging.directory = true
  · have hjoin : Path.join base c.logging.directory = c.logging.directory := by
      simp [Path.join, habsolute]
    rw [relocated, hjoin, if_pos habsolute]
  · rw [relocated, if_neg habsolute]

/-- However the text of an abridged configuration is spelled, it is loaded as the configuration if
it is read as its document. -/
theorem Writable.load_eq (h : Writable c) (hd : Abridges default.toDocument c.toDocument d)
    {t : FileTree} {path text : String} (hplaced : Placed t path text)
    (hread : Document.ofJson5? text = some d.normalise) :
    (load path : StateM FileTree (Except ConfigError Config)) t =
      (.ok (c.relocated (directoryOf path)), t) := by
  rw [load_of_placed hplaced hread (member?_schema_of_abridges hd),
    ofParsed_of_accepts (h.restores.accepts d hd), h.restores.reads d hd]

/-- A file with what is left of a configuration without some of its defaults, in any order, is
loaded as the configuration, with a relative log directory seen from the directory of the file.
This holds for any text of JSON that is also read as JSON5, as are the two written forms unless a
separator stands in them that ends a line in JSON5 alone. -/
theorem load_abridged (h : Writable c) (hd : Abridges default.toDocument c.toDocument d)
    {t : FileTree} {path text : String} (hplaced : Placed t path text)
    (htext : (Document.ofJson? text = some d ∧
        Document.ofJson5? text = (Document.ofJson? text).map normalise) ∨
      ((text = d.write ∨ text = d.lay) ∧ Unseparated text.toList)) :
    (load path : StateM FileTree (Except ConfigError Config)) t =
      (.ok { c with
        logging.directory := if Path.isAbsolute c.logging.directory then c.logging.directory
          else Path.join (directoryOf path) c.logging.directory }, t) := by
  have hplain : d.isPlain = true := hd.isPlain h.isPlain
  have hread : Document.ofJson5? text = some d.normalise := by
    rcases htext with ⟨hjson, hagrees⟩ | ⟨rfl | rfl, hsound⟩
    · rw [hagrees, hjson, Option.map_some]
    · exact ofJson5?_write hplain hsound
    · exact ofJson5?_lay hplain hsound
  rw [h.load_eq hd hplaced hread, relocated_eq]

/-- Seven days of logs below the directory of the file, and no policy: the rest is left out. -/
theorem load_abridged_reordered :
    let c : Config :=
      { default with
        logging.directory := "logs"
        logging.retentionDays := 7
        policy.mode := .unconfigured }
    let d : Document := .record
      [("policy", .record [("mode", .text "unconfigured")]),
        ("logging", .record [("retention_days", .integer 7), ("dir", .text "logs")])]
    let t := workspace d.write schemaText
    Writable c ∧ Abridges default.toDocument c.toDocument d ∧
      Placed t "/work/entitler.jsonc" d.write ∧ Unseparated d.write.toList ∧
      (load "/work/entitler.jsonc" : StateM FileTree (Except ConfigError Config)) t =
        (.ok { c with logging.directory := "/work/logs" }, t) := by
  intro c d t
  have hwritable : Writable c := by
    constructor <;> decide
  have hlogging : Abridges default.logging.toDocument c.logging.toDocument
      (.record [("retention_days", .integer 7), ("dir", .text "logs")]) :=
    .record (.keep "dir" (.whole _ _) (.drop "filter" _ (.drop "rotation" _
      (.keep "retention_days" (.whole _ _) (.drop "stderr_warn_enabled" _ .nil)))))
      (.swap _ _ _)
  have hpolicy : Abridges default.policy.toDocument c.policy.toDocument
      (.record [("mode", .text "unconfigured")]) :=
    .record (.keep "mode" (.whole _ _) (.drop "native" _ .nil)) (.refl _)
  have habridges : Abridges default.toDocument c.toDocument d :=
    .record (.keep "logging" hlogging (.drop "autobind" _ (.keep "policy" hpolicy .nil)))
      (.swap _ _ _)
  have hplaced : Placed t "/work/entitler.jsonc" d.write :=
    ⟨rfl, schemaText, ofJson?_schemaText, rfl⟩
  have hsound : Unseparated d.write.toList := by
    rw [write, String.toList_ofList]
    decide
  have hdirectory : (if Path.isAbsolute c.logging.directory then c.logging.directory
      else Path.join (directoryOf "/work/entitler.jsonc") c.logging.directory) = "/work/logs" := by
    decide +kernel
  have hload := load_abridged hwritable habridges hplaced (.inr ⟨.inl rfl, hsound⟩)
  rw [hdirectory] at hload
  exact ⟨hwritable, habridges, hplaced, hsound, hload⟩

end Config

end Allotment
