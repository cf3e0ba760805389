import Allotment.Policy.Evaluator
import Allotment.Proofs.Document.Leeway
import Allotment.Proofs.Document.Plain

/-!
# Policy outputs in writing

What a policy answers is read back from every form in which it may be written: without the
selections where it came to nothing, and with members that are not known beside those that are. The
kind of an output or a directive says which members are known.
-/

namespace Allotment

open Document

/-! ## Selections -/

namespace Selection

def fields : List Field :=
  [⟨"pool_id", none, .exact⟩, ⟨"quantity", none, .exact⟩]

def leeway : Leeway := .recordOf fields

theorem reads : Reads leeway ofDocument? toDocument := by
  refine reads_record _ (by decide) (fun _ => rfl) fun s members h => ?_
  simp only [fields, List.forall₂_cons] at h
  obtain ⟨hpool, hquantity, -⟩ := h
  simp [ofDocument?, readMembers?, reads_text.required_eq hpool, reads_amount.required_eq hquantity]

theorem isPlain_toDocument (s : Selection) : s.toDocument.isPlain = true := by
  simp [toDocument, isPlain, havePlain]

theorem depth_toDocument_le (s : Selection) : s.toDocument.depth ≤ 1 :=
  depth_record_le (by simp [ofAmount, depth])

end Selection

/-! ## Directives -/

namespace Directive

theorem reads_kind : Reads .exact Kind.ofDocument? fun kind => text kind.word :=
  reads_exact Kind.ofDocument?_word

def updateFields : List Field :=
  [⟨"type", none, .exact⟩, ⟨"stack_id", none, .exact⟩, ⟨"pool_id", none, .exact⟩,
    ⟨"quantity", none, .exact⟩]

def createFields : List Field :=
  [⟨"type", none, .exact⟩, ⟨"source_pool_id", none, .exact⟩, ⟨"quantity", none, .exact⟩]

def leeway : Leeway := (Leeway.recordOf updateFields).or (.recordOf createFields)

theorem reads : Reads leeway ofDocument? toDocument := by
  intro directive form h
  cases directive with
  | updateSubPool stackId poolId quantity =>
      have hupdate := allows_of_or_left (fixes_recordOf (by simp [createFields])) h
      obtain ⟨members, rfl, hheld⟩ := exists_holds_of_allows (by decide) rfl rfl hupdate
      simp only [updateFields, List.forall₂_cons] at hheld
      obtain ⟨hkind, hstack, hpool, hquantity, -⟩ := hheld
      simp [ofDocument?, readMembers?, reads_kind.required_eq hkind,
        reads_text.required_eq hstack, reads_text.required_eq hpool,
        reads_amount.required_eq hquantity]
  | createBonusPool sourcePoolId quantity =>
      have hcreate := allows_of_or_right (fixes_recordOf (by simp [updateFields])) h
      obtain ⟨members, rfl, hheld⟩ := exists_holds_of_allows (by decide) rfl rfl hcreate
      simp only [createFields, List.forall₂_cons] at hheld
      obtain ⟨hkind, hsource, hquantity, -⟩ := hheld
      simp [ofDocument?, readMembers?, reads_kind.required_eq hkind,
        reads_text.required_eq hsource, reads_amount.required_eq hquantity]

theorem isPlain_toDocument (directive : Directive) : directive.toDocument.isPlain = true := by
  cases directive <;> simp [toDocument, isPlain, havePlain]

theorem depth_toDocument_le (directive : Directive) : directive.toDocument.depth ≤ 1 := by
  cases directive <;> exact depth_record_le (by simp [ofAmount, depth])

end Directive

/-! ## Outputs -/

namespace PolicyOutput

def unconfiguredFields : List Field := [⟨"type", none, .exact⟩]

def selectionFields : List Field :=
  [⟨"type", none, .exact⟩, ⟨"selections", some null, .listOf Selection.leeway⟩]

def directivesFields : List Field :=
  [⟨"type", none, .exact⟩, ⟨"directives", none, .listOf Directive.leeway⟩]

def leeway : Leeway :=
  (Leeway.recordOf unconfiguredFields).or
    ((Leeway.recordOf selectionFields).or (.recordOf directivesFields))

theorem reads : Reads leeway ofDocument? toDocument := by
  have hselections : Reads (.listOf Selection.leeway)
      (readNullable? (readList? Selection.ofDocument?))
      (ofNullable (ofList Selection.toDocument)) :=
    Selection.reads.list.nullable rfl (fixes_listOf_null _)
  -- The kinds differ in the names of their fields, so only the leeway of its own kind is open.
  intro output form h
  cases output with
  | notConfigured =>
      have hunconfigured := allows_of_or_left
        (fixes_or (fixes_recordOf (by simp [selectionFields]))
          (fixes_recordOf (by simp [directivesFields]))) h
      obtain ⟨members, rfl, hheld⟩ := exists_holds_of_allows (by decide) rfl rfl hunconfigured
      simp only [unconfiguredFields, List.forall₂_cons] at hheld
      obtain ⟨htype, -⟩ := hheld
      simp [ofDocument?, readMembers?, reads_text.required_eq htype]
  | selection selections =>
      have hlater := allows_of_or_right (fixes_recordOf (by simp [unconfiguredFields])) h
      have hselection := allows_of_or_left (fixes_recordOf (by simp [directivesFields])) hlater
      obtain ⟨members, rfl, hheld⟩ := exists_holds_of_allows (by decide) rfl rfl hselection
      simp only [selectionFields, List.forall₂_cons] at hheld
      obtain ⟨htype, hheld, -⟩ := hheld
      simp [ofDocument?, readMembers?, reads_text.required_eq htype, hselections.nullable_eq hheld]
  | directives directives =>
      have hlater := allows_of_or_right (fixes_recordOf (by simp [unconfiguredFields])) h
      have hdirectives := allows_of_or_right (fixes_recordOf (by simp [selectionFields])) hlater
      obtain ⟨members, rfl, hheld⟩ := exists_holds_of_allows (by decide) rfl rfl hdirectives
      simp only [directivesFields, List.forall₂_cons] at hheld
      obtain ⟨htype, hheld, -⟩ := hheld
      simp [ofDocument?, readMembers?, reads_text.required_eq htype,
        Directive.reads.list.required_eq hheld]

theorem isPlain_toDocument (output : PolicyOutput) : output.toDocument.isPlain = true := by
  have hselections (selections : Option (List Selection)) :
      (ofNullable (ofList Selection.toDocument) selections).isPlain = true :=
    isPlain_ofNullable (isPlain_ofList Selection.isPlain_toDocument) selections
  have hdirectives := isPlain_ofList Directive.isPlain_toDocument
  cases output <;> simp [toDocument, isPlain, havePlain, hselections, hdirectives]

theorem depth_toDocument_le (output : PolicyOutput) : output.toDocument.depth ≤ 3 := by
  have hselections (selections : Option (List Selection)) :
      (ofNullable (ofList Selection.toDocument) selections).depth ≤ 2 := by
    cases selections with
    | none => exact Nat.zero_le 2
    | some selections => exact depth_ofList_le Selection.depth_toDocument_le selections
  have hdirectives := depth_ofList_le Directive.depth_toDocument_le
  cases output <;> exact depth_record_le (by simp [depth, hselections, hdirectives])

end PolicyOutput

end Allotment
