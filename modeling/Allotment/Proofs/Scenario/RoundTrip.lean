import Allotment.Proofs.Policy.Outputs
import Allotment.Proofs.Scenario.Forms

/-!
# What is written is read back

A scenario file and the text of a policy output give back the value that was written. It does not
matter whether fields with default values were left out and others added, how the JSON was laid out,
and what else the file system holds.
-/

namespace Allotment

namespace Document

/-- The text is what is written of the document, on one line or over several, or it is parsed into
one of the forms in which the document may be written. -/
def Leeway.Conveys (leeway : Leeway) (parse? : String → Option Document) (d : Document)
    (text : String) : Prop :=
  text = d.write ∨ text = d.lay ∨ ∃ form, leeway.allows d form ∧ parse? text = some form

/-- Where what is written is parsed back, whatever conveys it is read as the value. -/
theorem Reads.of_conveys {α : Type} {leeway : Leeway} {read : Document → Option α}
    {write : α → Document} {parse? : String → Option Document} {a : α} {text : String}
    (h : Reads leeway read write) (hwrite : parse? (write a).write = some (write a))
    (hlay : parse? (write a).lay = some (write a))
    (hconveys : leeway.Conveys parse? (write a) text) : (parse? text).bind read = some a := by
  obtain ⟨form, hallows, hparse⟩ :
      ∃ form, leeway.allows (write a) form ∧ parse? text = some form := by
    rcases hconveys with rfl | rfl | hform
    · exact ⟨write a, leeway.refl _, hwrite⟩
    · exact ⟨write a, leeway.refl _, hlay⟩
    · exact hform
  rw [hparse, Option.bind_some, h a form hallows]

end Document

open Document

/-- A file is loaded for the value that it conveys. Loading changes no file. -/
theorem Scenario.load_of_conveys {s : Scenario} {text path : String} {t : FileTree}
    (hconveys : leeway.Conveys ofJson? s.toDocument text) (hfile : t.readFile? path = some text) :
    (load path : StateM FileTree (Except ScenarioError Scenario)) t = (.ok s, t) := by
  have hplain := s.isPlain_toDocument
  have hscenario : (ofJson? text).bind ofDocument? = some s :=
    reads.of_conveys (ofJson?_write hplain) (ofJson?_lay hplain) hconveys
  simp only [load, bind, StateT.bind, MonadFiles.readFile?, hfile, hscenario]
  rfl

theorem PolicyOutput.read_of_conveys {output : PolicyOutput} {text : String}
    (hconveys : leeway.Conveys ofJsonWhole? output.toDocument text) :
    (ofJsonWhole? text).bind ofDocument? = some output := by
  have hplain := output.isPlain_toDocument
  have hdepth : output.toDocument.depth ≤ maxDepth :=
    Nat.le_trans output.depth_toDocument_le (by decide)
  exact reads.of_conveys (ofJsonWhole?_of_isPlain hplain hdepth (ofJson?_write hplain))
    (ofJsonWhole?_of_isPlain hplain hdepth (ofJson?_lay hplain)) hconveys

/-- Scenarios and policy outputs are read back from whatever conveys them. Documents that stand for
a policy output may be of any depth; only their texts are bounded by what the parser keeps. -/
theorem formats_round_trip :
    (∀ (s : Scenario) (text path : String) (t : FileTree),
      Scenario.leeway.Conveys ofJson? s.toDocument text → t.readFile? path = some text →
        (Scenario.load path : StateM FileTree (Except ScenarioError Scenario)) t = (.ok s, t)) ∧
    (∀ (output : PolicyOutput) (text : String),
      PolicyOutput.leeway.Conveys ofJsonWhole? output.toDocument text →
        (ofJsonWhole? text).bind PolicyOutput.ofDocument? = some output) ∧
    ∀ (output : PolicyOutput) (form : Document),
      PolicyOutput.leeway.allows output.toDocument form →
        PolicyOutput.ofDocument? form = some output :=
  ⟨fun _ _ _ _ => Scenario.load_of_conveys, fun _ _ => PolicyOutput.read_of_conveys,
    PolicyOutput.reads⟩

/-- A consumer in a rack and a pool without most of its fields, and a directive with its reason. -/
theorem formats_round_trip_extended :
    let date : Date := ⟨2026, 1, 1, by decide, by decide, by decide, by decide, by decide⟩
    let midnight : ClockTime := ⟨0, 0, 0, 0, by decide, by decide, by decide, by decide⟩
    let start : Timestamp := ⟨date, midnight, 0, by decide, by decide⟩
    let pool : Pool := ⟨"p1", "mkt", none, 10, 0, .empty, .empty, [⟨"eng", ""⟩], start, start⟩
    let s : Scenario :=
      ⟨⟨"c1", .system, .empty, .empty, none⟩, [], [pool], [], .empty, none, .empty, []⟩
    let consumer : Document := .record
      [("rack", .integer 7), ("id", .text "c1"), ("type", .text "system")]
    let provided : Document := .list [.record [("product_id", .text "eng")]]
    let pools : Document := .list [.record
      [("id", .text "p1"), ("product_id", .text "mkt"), ("quantity", .integer 10),
        ("provided_products", provided), ("start_date", start.toDocument),
        ("end_date", start.toDocument)]]
    let form : Document := .record [("consumer", consumer), ("pools", pools)]
    let t : FileTree := ⟨[(["s.json"], .file form.write 0)], [], 0⟩
    let output : PolicyOutput := .directives [.createBonusPool "p1" 3]
    let answer : Document := .record
      [("type", .text "directives"), ("directives", .list [.record
        [("type", .text "create_bonus_pool"), ("source_pool_id", .text "p1"),
          ("quantity", .integer 3), ("reason", .text "guests")]])]
    Scenario.leeway.allows s.toDocument form ∧ t.readFile? "/s.json" = some form.write ∧
      (Scenario.load "/s.json" : StateM FileTree (Except ScenarioError Scenario)) t = (.ok s, t) ∧
      PolicyOutput.leeway.allows output.toDocument answer ∧
      ofJsonWhole? answer.lay = some answer ∧
      (ofJsonWhole? answer.lay).bind PolicyOutput.ofDocument? = some output ∧
      PolicyOutput.ofDocument? answer = some output := by
  intro date midnight start pool s consumer provided pools form t output answer
  obtain ⟨hscenarios, houtputs, hdocuments⟩ := formats_round_trip
  have hconsumer : Consumer.leeway.allows s.consumer.toDocument consumer :=
    .inr ⟨_, _, rfl, rfl, .add _ (by decide) (.keep rfl (.keep rfl
      (.drop rfl (.drop rfl (.drop rfl .nil)))))⟩
  have hprovided : (Leeway.listOf ProvidedProduct.leeway).allows
      (ofList ProvidedProduct.toDocument pool.providedProducts) provided :=
    .inr ⟨_, _, rfl, rfl, .cons (.inr ⟨_, _, rfl, rfl, .keep rfl (.drop rfl .nil)⟩) .nil⟩
  have hpools : (Leeway.listOf Pool.leeway).allows (ofList Pool.toDocument s.pools) pools :=
    .inr ⟨_, _, rfl, rfl, .cons (.inr ⟨_, _, rfl, rfl, .keep rfl (.keep rfl (.drop rfl
      (.keep rfl (.drop rfl (.drop rfl (.drop rfl (.keep hprovided (.keep rfl
        (.keep rfl .nil)))))))))⟩) .nil⟩
  have hform : Scenario.leeway.allows s.toDocument form :=
    .inr ⟨_, _, rfl, rfl, .keep hconsumer (.drop rfl (.keep hpools (.drop rfl (.drop rfl
      (.drop rfl (.drop rfl (.drop rfl .nil)))))))⟩
  have hanswer : PolicyOutput.leeway.allows output.toDocument answer :=
    .inr (.inr (.inr ⟨_, _, rfl, rfl, .keep rfl (.keep (.inr ⟨_, _, rfl, rfl,
      .cons (.inr (.inr ⟨_, _, rfl, rfl, .keep rfl (.keep rfl (.keep rfl
        (.add _ (by decide) .nil)))⟩)) .nil⟩) .nil)⟩))
  have hfile : t.readFile? "/s.json" = some form.write := rfl
  have hwritten : ofJson? form.write = some form := ofJson?_write (by decide)
  have hlaid : ofJsonWhole? answer.lay = some answer :=
    ofJsonWhole?_of_isPlain (by decide) (by decide) (ofJson?_lay (by decide))
  exact ⟨hform, hfile, hscenarios s _ _ t (.inr (.inr ⟨form, hform, hwritten⟩)) hfile, hanswer,
    hlaid, houtputs output _ (.inr (.inr ⟨answer, hanswer, hlaid⟩)), hdocuments output _ hanswer⟩

end Allotment
