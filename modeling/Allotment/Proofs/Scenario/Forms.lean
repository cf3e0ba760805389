import Allotment.Proofs.Calendar.Notation
import Allotment.Proofs.Document.Leeway
import Allotment.Proofs.Document.Plain
import Allotment.Scenario

/-!
# Scenarios in writing

A scenario and everything in it is read back from every form in which it may be written. Fields that
have their default values may be missing at every level, and members that are not known may stand
beside those that are, save in the tables of facts, attributes and compliance, where every name
counts.
-/

namespace Allotment

open Document

theorem Timestamp.reads : Reads .exact Timestamp.ofDocument? Timestamp.toDocument :=
  reads_exact fun t => by rw [ofDocument?, toDocument, readText?, Option.bind_some, read?_write]

/-! ## Consumers -/

namespace Consumer

def fields : List Field :=
  [⟨"id", none, .exact⟩, ⟨"type", none, .exact⟩, ⟨"facts", some (ofTexts .empty), .exact⟩,
    ⟨"capabilities", some (ofNames .empty), .exact⟩, ⟨"service_level", some null, .exact⟩]

def leeway : Leeway := .recordOf fields

theorem reads : Reads leeway ofDocument? toDocument := by
  refine reads_record _ (by decide) (fun _ => rfl) fun c members h => ?_
  simp only [fields, List.forall₂_cons] at h
  obtain ⟨hid, hkind, hfacts, hcapabilities, hlevel, -⟩ := h
  simp [ofDocument?, readMembers?, reads_text.required_eq hid,
    (reads_word ConsumerKind.ofWord?_word).required_eq hkind, reads_texts.optional_eq hfacts,
    reads_names.optional_eq hcapabilities, reads_nullable_text.nullable_eq hlevel]

theorem isPlain_toDocument (c : Consumer) : c.toDocument.isPlain = true := by
  simp [toDocument, isPlain, havePlain]

end Consumer

/-! ## Products -/

namespace Product

def fields : List Field :=
  [⟨"id", none, .exact⟩, ⟨"name", none, .exact⟩, ⟨"attributes", some (ofTexts .empty), .exact⟩,
    ⟨"content", some (ofNames .empty), .exact⟩]

def leeway : Leeway := .recordOf fields

theorem reads : Reads leeway ofDocument? toDocument := by
  refine reads_record _ (by decide) (fun _ => rfl) fun p members h => ?_
  simp only [fields, List.forall₂_cons] at h
  obtain ⟨hid, hname, hattributes, hcontent, -⟩ := h
  simp [ofDocument?, readMembers?, reads_text.required_eq hid, reads_text.required_eq hname,
    reads_texts.optional_eq hattributes, reads_names.optional_eq hcontent]

theorem isPlain_toDocument (p : Product) : p.toDocument.isPlain = true := by
  simp [toDocument, isPlain, havePlain]

end Product

/-! ## Pools -/

namespace ProvidedProduct

def fields : List Field :=
  [⟨"product_id", none, .exact⟩, ⟨"product_name", some (text ""), .exact⟩]

def leeway : Leeway := .recordOf fields

theorem reads : Reads leeway ofDocument? toDocument := by
  refine reads_record _ (by decide) (fun _ => rfl) fun p members h => ?_
  simp only [fields, List.forall₂_cons] at h
  obtain ⟨hid, hname, -⟩ := h
  simp [ofDocument?, readMembers?, reads_text.required_eq hid, reads_text.optional_eq hname]

theorem isPlain_toDocument (p : ProvidedProduct) : p.toDocument.isPlain = true := by
  simp [toDocument, isPlain, havePlain]

end ProvidedProduct

namespace Pool

def fields : List Field :=
  [⟨"id", none, .exact⟩, ⟨"product_id", none, .exact⟩, ⟨"derived_product_id", some null, .exact⟩,
    ⟨"quantity", none, .exact⟩, ⟨"consumed", some (ofAmount 0), .exact⟩,
    ⟨"attributes", some (ofTexts .empty), .exact⟩,
    ⟨"product_attributes", some (ofTexts .empty), .exact⟩,
    ⟨"provided_products", some (ofList ProvidedProduct.toDocument []),
      .listOf ProvidedProduct.leeway⟩,
    ⟨"start_date", none, .exact⟩, ⟨"end_date", none, .exact⟩]

def leeway : Leeway := .recordOf fields

theorem reads : Reads leeway ofDocument? toDocument := by
  refine reads_record _ (by decide) (fun _ => rfl) fun p members h => ?_
  simp only [fields, List.forall₂_cons] at h
  obtain ⟨hid, hproduct, hderived, hquantity, hconsumed, hattributes, hproductAttributes, hprovided,
    hstart, hend, -⟩ := h
  simp [ofDocument?, readMembers?, reads_text.required_eq hid, reads_text.required_eq hproduct,
    reads_nullable_text.nullable_eq hderived, reads_amount.required_eq hquantity,
    reads_amount.optional_eq hconsumed, reads_texts.optional_eq hattributes,
    reads_texts.optional_eq hproductAttributes, ProvidedProduct.reads.list.optional_eq hprovided,
    Timestamp.reads.required_eq hstart, Timestamp.reads.required_eq hend]

theorem isPlain_toDocument (p : Pool) : p.toDocument.isPlain = true := by
  simp [toDocument, isPlain, havePlain, Timestamp.toDocument,
    isPlain_ofList ProvidedProduct.isPlain_toDocument]

end Pool

/-! ## Compliance -/

namespace Compliance

theorem reads_coverage :
    Reads .exact (readWord? Coverage.ofWord?) fun state => text (Coverage.word state) :=
  reads_word Coverage.ofWord?_word

def fields : List Field :=
  [⟨"products", some (ofTable (fun state => text (Coverage.word state)) .empty), .exact⟩,
    ⟨"exempt_service_levels", some (ofNames .empty), .exact⟩]

def leeway : Leeway := .recordOf fields

theorem reads : Reads leeway ofDocument? toDocument := by
  refine reads_record _ (by decide) (fun _ => rfl) fun c members h => ?_
  simp only [fields, List.forall₂_cons] at h
  obtain ⟨hproducts, hexempt, -⟩ := h
  simp [ofDocument?, readMembers?, (reads_table reads_coverage.read_write).optional_eq hproducts,
    reads_names.optional_eq hexempt]

theorem isPlain_toDocument (c : Compliance) : c.toDocument.isPlain = true := by
  have hproducts := isPlain_ofTable (fun state => isPlain_text (Coverage.word state)) c.products
  simp [toDocument, isPlain, havePlain, hproducts]

end Compliance

/-! ## Requests and scenarios -/

namespace PoolRequest

def fields : List Field := [⟨"pool_id", none, .exact⟩, ⟨"quantity", none, .exact⟩]

def leeway : Leeway := .recordOf fields

theorem reads : Reads leeway ofDocument? toDocument := by
  refine reads_record _ (by decide) (fun _ => rfl) fun r members h => ?_
  simp only [fields, List.forall₂_cons] at h
  obtain ⟨hpool, hquantity, -⟩ := h
  simp [ofDocument?, readMembers?, reads_text.required_eq hpool, reads_units.required_eq hquantity]

theorem isPlain_toDocument (r : PoolRequest) : r.toDocument.isPlain = true := by
  simp [toDocument, isPlain, havePlain]

end PoolRequest

namespace Scenario

def fields : List Field :=
  [⟨"consumer", none, Consumer.leeway⟩, ⟨"installed_products", some (ofList text []), .exact⟩,
    ⟨"pools", some (ofList Pool.toDocument []), .listOf Pool.leeway⟩,
    ⟨"products", some (ofList Product.toDocument []), .listOf Product.leeway⟩,
    ⟨"compliance", some Compliance.empty.toDocument, Compliance.leeway⟩,
    ⟨"service_level_override", some null, .exact⟩,
    ⟨"exempt_levels", some (ofNames .empty), .exact⟩,
    ⟨"requests", some (ofList PoolRequest.toDocument []), .listOf PoolRequest.leeway⟩]

def leeway : Leeway := .recordOf fields

theorem reads : Reads leeway ofDocument? toDocument := by
  refine reads_record _ (by decide) (fun _ => rfl) fun s members h => ?_
  simp only [fields, List.forall₂_cons] at h
  obtain ⟨hconsumer, hinstalled, hpools, hproducts, hcompliance, hlevel, hexempt, hrequests, -⟩ := h
  simp [ofDocument?, readMembers?, Consumer.reads.required_eq hconsumer,
    reads_list_text.optional_eq hinstalled, Pool.reads.list.optional_eq hpools,
    Product.reads.list.optional_eq hproducts, Compliance.reads.optional_eq hcompliance,
    reads_nullable_text.nullable_eq hlevel, reads_names.optional_eq hexempt,
    PoolRequest.reads.list.optional_eq hrequests]

theorem isPlain_toDocument (s : Scenario) : s.toDocument.isPlain = true := by
  simp [toDocument, isPlain, havePlain, Consumer.isPlain_toDocument,
    Compliance.isPlain_toDocument, isPlain_ofList Pool.isPlain_toDocument,
    isPlain_ofList Product.isPlain_toDocument, isPlain_ofList PoolRequest.isPlain_toDocument,
    isPlain_ofList isPlain_text]

end Scenario

end Allotment
