import Mathlib.Data.List.Forall2
import MethodSignature.Proofs.Output.Tally

/-!
What an output says about each input, in the order of the inputs. Among lines every input has a
block of its own, and the counts stand below all blocks; in JSON every input has an item. That
leaves no choice: format, color and inputs determine the text, and it is the one that is written.
-/

namespace MethodSignature

theorem forall₂_iff_map_eq {α β : Type} {r : α → β → Prop} {f : α → β}
    (graph : ∀ a b, r a b ↔ f a = b) (as : List α) (bs : List β) :
    List.Forall₂ r as bs ↔ as.map f = bs := by
  have same : r = fun a b => f a = b := funext₂ fun a b => propext (graph a b)
  rw [same, ← List.forall₂_map_left_iff, List.forall₂_eq_eq_eq]

namespace Terminal

open Color

/-- The lines about one input: the words and arguments that were read, or what is wrong. -/
inductive Block (colored : Bool) (s : Text) : List Text → Prop
  | accepted {sig : Signature} (parsed : Signature.parse? s = .ok sig) :
      Block colored s
        ([Style.success.apply colored ("[OK] " ++ s) ++ "\n",
          "  " ++ Style.dim.apply colored "access modifier:" ++ " " ++
            sig.modifier.getD "(none)" ++ "\n",
          "  " ++ Style.dim.apply colored "return type:    " ++ " " ++ sig.returnType ++ "\n",
          "  " ++ Style.dim.apply colored "method name:    " ++ " " ++ sig.name ++ "\n",
          "  " ++ Style.dim.apply colored "arguments:      " ++ " " ++
            Text.ofNat sig.arguments.length ++ "\n"] ++
          sig.arguments.zipIdx.map fun (a, i) =>
            "    [" ++ Text.ofNat i ++ "] " ++ (a.type ++ ' ' :: a.name) ++ "\n")
  | rejected {fault : Signature.Fault} (failed : Signature.parse? s = .error fault) :
      Block colored s
        [Style.error.apply colored ("[FAIL] " ++ s) ++ "\n", "  " ++ fault.message ++ "\n"]

theorem block_iff (colored : Bool) (s : Text) (ls : List Text) :
    Block colored s ls ↔ reportLines colored ⟨s, Signature.parse? s⟩ = ls := by
  constructor
  · intro block
    cases block with
    | accepted parsed => rw [parsed]; rfl
    | rejected failed => rw [failed]; rfl
  · rintro rfl
    cases outcome : Signature.parse? s with
    | ok sig => exact .accepted outcome
    | error fault => exact .rejected outcome

def Shows (colored : Bool) (inputs : List Text) (text : Text) : Prop :=
  ∃ blocks, List.Forall₂ (Block colored) inputs blocks ∧
    text = blocks.flatten.flatten ++ Style.header.apply colored
      (counts (inputs.countP fun s => (Signature.parse? s).isOk)
        (inputs.countP fun s => !(Signature.parse? s).isOk)) ++ "\n"

theorem counts_ofInputs (inputs : List Text) :
    counts (inputs.countP fun s => (Signature.parse? s).isOk)
        (inputs.countP fun s => !(Signature.parse? s).isOk) =
      summary (Report.ofInputs inputs).value := by
  have isOk (s : Text) :
      Report.isOk ⟨s, Signature.parse? s⟩ = (Signature.parse? s).isOk := by
    unfold Report.isOk
    cases Signature.parse? s <;> rfl
  have failed : Report.failures (Report.ofInputs inputs).value =
      inputs.countP fun s => !(Signature.parse? s).isOk := by
    rw [Report.failures, Report.ofInputs_value, List.countP_map]
    simp only [Function.comp_def, isOk]
  have whole := inputs.length_eq_countP_add_countP fun s => (Signature.parse? s).isOk
  simp only [Bool.not_eq_true, Bool.decide_eq_false] at whole
  rw [summary, failed, Report.ofInputs_value, List.length_map, whole, Nat.add_sub_cancel]
  rfl

theorem shows_iff_render (colored : Bool) (inputs : List Text) (text : Text) :
    Shows colored inputs text ↔
      text = (Document.reports (Report.ofInputs inputs).value).render .terminal colored := by
  have lines := forall₂_iff_map_eq (block_iff colored) inputs
  simp only [Shows, lines, exists_eq_left', counts_ofInputs]
  rw [Document.render, Document.chunks, Terminal.lines, List.flatten_append, List.flatMap_def,
    Report.ofInputs_value, List.map_map, List.append_assoc, List.flatten_singleton]
  rfl

end Terminal

namespace Json

/-- The item about one input: what was read, or what is wrong. -/
inductive Item (s : Text) : Json → Prop
  | accepted {sig : Signature} (parsed : Signature.parse? s = .ok sig) :
      Item s (.object [
        ("input", .string s),
        ("signature", .object [
          ("access_modifier", (sig.modifier.map string).getD null),
          ("return_type", .string sig.returnType),
          ("method_name", .string sig.name),
          ("arguments", .list (sig.arguments.map fun a =>
            .object [("type", .string a.type), ("name", .string a.name)]))])])
  | rejected {fault : Signature.Fault} (failed : Signature.parse? s = .error fault) :
      Item s (.object [
        ("input", .string s),
        ("error", .object [("kind", .string fault.kind), ("message", .string fault.message)])])

theorem item_iff (s : Text) (item : Json) :
    Item s item ↔ Report.toJson ⟨s, Signature.parse? s⟩ = item := by
  constructor
  · intro item
    cases item with
    | @accepted sig parsed =>
      rw [parsed]
      obtain ⟨modifier, returnType, name, arguments⟩ := sig
      cases modifier <;> rfl
    | rejected failed => rw [failed]; rfl
  · rintro rfl
    cases outcome : Signature.parse? s with
    | ok sig =>
      obtain ⟨modifier, returnType, name, arguments⟩ := sig
      cases modifier <;> exact .accepted outcome
    | error fault => exact .rejected outcome

def Shows (inputs : List Text) (text : Text) : Prop :=
  ∃ items, List.Forall₂ Item inputs items ∧ Lists text items

theorem shows_iff_render (colored : Bool) (inputs : List Text) (text : Text) :
    Shows inputs text ↔
      text = (Document.reports (Report.ofInputs inputs).value).render .json colored := by
  have items := forall₂_iff_map_eq item_iff inputs
  simp only [Shows, items, exists_eq_left', Lists, Document.render_json, Report.ofInputs_value,
    Document.toJson, List.map_map, Function.comp_def]
  rfl

end Json

namespace Format

/-- The text that reports on these inputs. -/
def Shows (format : Format) (colored : Bool) (inputs : List Text) (text : Text) : Prop :=
  match format with
  | json => Json.Shows inputs text
  | terminal => Terminal.Shows colored inputs text

theorem shows_iff_render (format : Format) (colored : Bool) (inputs : List Text) (text : Text) :
    format.Shows colored inputs text ↔
      text = (Document.reports (Report.ofInputs inputs).value).render format colored := by
  cases format with
  | json => exact Json.shows_iff_render colored inputs text
  | terminal => exact Terminal.shows_iff_render colored inputs text

end Format

end MethodSignature
