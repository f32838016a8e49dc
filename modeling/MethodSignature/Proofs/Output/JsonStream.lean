import MethodSignature.Proofs.Json.Delimited
import MethodSignature.Proofs.Output.Sink

/-!
The stream that a writer of JSON leaves behind determines every document written to it: the tree
of a document determines the document, and the written trees end by themselves.
-/

namespace MethodSignature

theorem Argument.toJson_inj {a b : Argument} : a.toJson = b.toJson ↔ a = b := by
  cases a
  cases b
  simp [toJson]

theorem Signature.toJson_inj {a b : Signature} : a.toJson = b.toJson ↔ a = b := by
  obtain ⟨modifier, returnType, name, arguments⟩ := a
  obtain ⟨modifier', returnType', name', arguments'⟩ := b
  have lists : arguments.map Argument.toJson = arguments'.map Argument.toJson ↔
      arguments = arguments' :=
    List.map_inj_right fun _ _ => Argument.toJson_inj.mp
  cases modifier <;> cases modifier' <;> simp [toJson, lists]

theorem Signature.Fault.toJson_inj {a b : Signature.Fault} : a.toJson = b.toJson ↔ a = b := by
  constructor
  · intro same
    have kinds : a.kind = b.kind ∧ a.message = b.message := by simpa [toJson] using same
    exact kind_injective kinds.1
  · exact congrArg toJson

theorem Report.toJson_inj {a b : Report} : a.toJson = b.toJson ↔ a = b := by
  obtain ⟨input, outcome⟩ := a
  obtain ⟨input', outcome'⟩ := b
  cases outcome <;> cases outcome' <;>
    simp [toJson, Signature.toJson_inj, Signature.Fault.toJson_inj]

theorem SplitResult.toJson_inj {a b : SplitResult} : a.toJson = b.toJson ↔ a = b := by
  obtain ⟨source, delimiters, tokens⟩ := a
  obtain ⟨source', delimiters', tokens'⟩ := b
  have lists (xs ys : List Text) : xs.map Json.string = ys.map Json.string ↔ xs = ys :=
    List.map_inj_right fun _ _ => Json.string.inj
  simp [toJson, lists]

namespace Document

theorem toJson_inj {d e : Document} : d.toJson = e.toJson ↔ d = e := by
  have lists (rs ss : List Report) : rs.map Report.toJson = ss.map Report.toJson ↔ rs = ss :=
    List.map_inj_right fun _ _ => Report.toJson_inj.mp
  cases d with
  | reports rs =>
    cases e with
    | reports ss => simp [toJson, lists]
    | split result => simp [toJson, SplitResult.toJson]
  | split result =>
    cases e with
    | reports ss => simp [toJson, SplitResult.toJson]
    | split other => simp [toJson, SplitResult.toJson_inj]

theorem render_json (colored : Bool) (d : Document) :
    d.render .json colored = d.toJson.pretty 0 ++ ['\n'] := by
  simp [render, chunks]

theorem flatMap_render_json_inj {colored colored' : Bool} {ds es : List Document}
    (same : ds.flatMap (render .json colored) = es.flatMap (render .json colored')) :
    ds = es := by
  induction ds generalizing es with
  | nil =>
    cases es with
    | nil => rfl
    | cons e es => simp [render_json] at same
  | cons d ds ih =>
    cases es with
    | nil => simp [render_json] at same
    | cons e es =>
      rw [List.flatMap_cons, List.flatMap_cons, render_json, render_json, List.append_assoc,
        List.append_assoc] at same
      obtain ⟨trees, rests⟩ := Json.pretty_append_inj 0 _ _ _ _ same
      rw [toJson_inj.mp trees, ih (List.append_cancel_left rests)]

end Document

namespace Writer

theorem sinkAfter_write_stored (w : Writer) (ds : List Document) :
    (w.sinkAfter {} (ds.map .write)).stored =
      Text.encode (ds.flatMap (Document.render w.format w.colored)) := by
  rw [(w.sinkAfter_of_unlimited rfl _).1, List.nil_append, List.flatMap_def, List.flatMap_def,
    Text.encode_flatten, List.map_map, List.map_map]
  rfl

/-- Two runs that write JSON leave the same octets behind only if they wrote the same documents
in the same order. -/
theorem sinkAfter_json_inj (mode mode' : Color.Mode) (ds es : List Document) :
    ((ofMode .json mode).sinkAfter {} (ds.map .write)).stored =
        ((ofMode .json mode').sinkAfter {} (es.map .write)).stored ↔ ds = es := by
  rw [sinkAfter_write_stored, sinkAfter_write_stored, Text.encode_inj]
  constructor
  · exact Document.flatMap_render_json_inj
  · rintro rfl
    rfl

end Writer

end MethodSignature
