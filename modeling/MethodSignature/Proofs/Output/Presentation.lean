import MethodSignature.Proofs.Color.Strip
import MethodSignature.Proofs.Output.Sink

/-!
Color says nothing that the text does not say. What a writer of lines puts out in color and what
it puts out without are the same once all sequences are deleted, whatever sequences the reports
themselves hold; and where these hold no escape character, deleting the sequences gives back the
plain output.
-/

namespace MethodSignature

open Color

namespace Terminal

theorem strip_line (style : Style) (on : Bool) (s : Text) :
    strip sequences (style.apply on s ++ "\n") = strip sequences (s ++ "\n") := by
  have breaks : ∀ q ∈ sequences, '\n' ∉ q.tail := by decide
  exact strip_apply_append style on breaks s []

theorem strip_detailLine (on : Bool) (label value : Text) :
    strip sequences (detailLine on label value) =
      strip sequences (detailLine false label value) := by
  have breaks : ∀ q ∈ sequences, ' ' ∉ q.tail := by decide
  have margin : '\x1b' ∉ ("  " : Text) := by decide
  have split (on : Bool) : detailLine on label value =
      "  " ++ (Style.dim.apply on label ++ ' ' :: (value ++ "\n")) := by
    simp only [detailLine, List.append_assoc]
    rfl
  rw [split, split, marked_sequences.strip_append_of_notMem margin,
    marked_sequences.strip_append_of_notMem margin, strip_apply_append _ on breaks,
    strip_apply_append _ false breaks]

theorem map_strip_signatureLines (on : Bool) (sig : Signature) :
    (signatureLines on sig).map (strip sequences) =
      (signatureLines false sig).map (strip sequences) := by
  simp only [signatureLines, List.map_append, List.map_cons, List.map_nil, strip_detailLine on]

theorem map_strip_reportLines (on : Bool) (r : Report) :
    (reportLines on r).map (strip sequences) = (reportLines false r).map (strip sequences) := by
  unfold reportLines
  split
  · simp only [List.map_cons, strip_line, map_strip_signatureLines on]
  · simp only [List.map_cons, strip_line]

theorem map_strip_lines (on : Bool) (d : Document) :
    (lines on d).map (strip sequences) = (lines false d).map (strip sequences) := by
  cases d with
  | reports rs =>
    have blocks : (rs.flatMap (reportLines on)).map (strip sequences) =
        (rs.flatMap (reportLines false)).map (strip sequences) := by
      rw [List.map_flatMap, List.map_flatMap]
      simp only [map_strip_reportLines on]
    simp only [lines, List.map_append, blocks, List.map_cons, strip_line]
  | split result => simp only [lines, List.map_cons, strip_line]

theorem getLast?_append_newline (s : Text) : (s ++ "\n").getLast? = some '\n' :=
  List.getLast?_concat

theorem signatureLines_ended (on : Bool) (sig : Signature) :
    ∀ l ∈ signatureLines on sig, l.getLast? = some '\n' := by
  intro l mem
  rw [signatureLines, List.mem_append] at mem
  rcases mem with detail | argument
  · simp only [List.mem_cons, List.not_mem_nil, or_false] at detail
    rcases detail with rfl | rfl | rfl | rfl <;> exact getLast?_append_newline _
  · obtain ⟨⟨a, index⟩, -, rfl⟩ := List.mem_map.mp argument
    exact getLast?_append_newline _

theorem reportLines_ended (on : Bool) (r : Report) :
    ∀ l ∈ reportLines on r, l.getLast? = some '\n' := by
  intro l mem
  unfold reportLines at mem
  split at mem
  · rcases List.mem_cons.mp mem with rfl | later
    · exact getLast?_append_newline _
    · exact signatureLines_ended on _ l later
  · simp only [List.mem_cons, List.not_mem_nil, or_false] at mem
    rcases mem with rfl | rfl <;> exact getLast?_append_newline _

theorem lines_ended (on : Bool) (d : Document) : ∀ l ∈ lines on d, l.getLast? = some '\n' := by
  intro l mem
  cases d with
  | reports rs =>
    rw [lines, List.mem_append, List.mem_flatMap, List.mem_singleton] at mem
    rcases mem with ⟨r, -, inside⟩ | rfl
    · exact reportLines_ended on r l inside
    · exact getLast?_append_newline _
  | split result =>
    rcases List.mem_cons.mp mem with rfl | later
    · exact getLast?_append_newline _
    · obtain ⟨⟨token, index⟩, -, rfl⟩ := List.mem_map.mp later
      exact getLast?_append_newline _

end Terminal

def Signature.words (sig : Signature) : List Text :=
  sig.modifier.toList ++ [sig.returnType, sig.name] ++
    sig.arguments.flatMap fun a => [a.type, a.name]

def Report.texts (r : Report) : List Text :=
  r.input ::
    match r.outcome with
    | .ok sig => sig.words
    | .error _ => []

def Document.texts : Document → List Text
  | .reports rs => rs.flatMap Report.texts
  | .split result => result.tokens

theorem Text.notMem_ofNat {c : Char} (other : c.isDigit = false) (n : Nat) : c ∉ Text.ofNat n := by
  intro mem
  have digit : c.isDigit := Nat.isDigit_of_mem_toDigits (by decide) (by decide) mem
  rw [other] at digit
  cases digit

namespace Terminal

def IsLine (c : Char) (l : Text) : Prop := ∃ body, c ∉ body ∧ l = body ++ "\n"

/-- Characters that lines without color show only where a text holds them, or at their end. -/
def unprinted : List Char := ['\x1b', '\n']

def IsPrinted (s : Text) : Prop := ∀ c ∈ s, c ∉ unprinted

instance (s : Text) : Decidable (IsPrinted s) :=
  List.decidableBAll _ s

section IsLine

variable {c : Char} (hidden : c ∈ unprinted)
include hidden

theorem notMem_fixed {s : Text} (printed : IsPrinted s) : c ∉ s :=
  fun mem => printed c mem hidden

theorem notMem_number (n : Nat) : c ∉ Text.ofNat n := by
  have digitless : c.isDigit = false := by
    simp only [unprinted, List.mem_cons, List.not_mem_nil, or_false] at hidden
    rcases hidden with rfl | rfl <;> rfl
  exact Text.notMem_ofNat digitless n

theorem isLine_detailLine {label value : Text} (named : IsPrinted label)
    (clean : c ∉ value) : IsLine c (detailLine false label value) := by
  have margin : c ∉ ("  " : Text) ++ label :=
    List.not_mem_append (notMem_fixed hidden (by decide)) (notMem_fixed hidden named)
  have front := List.not_mem_append margin (notMem_fixed hidden (s := " ") (by decide))
  exact ⟨_, List.not_mem_append front clean, rfl⟩

theorem isLine_argumentLine {a : Argument} (type : c ∉ a.type) (name : c ∉ a.name)
    (index : Nat) : IsLine c (argumentLine index a) := by
  have written : c ∉ a.type ++ ([' '] ++ a.name) :=
    List.not_mem_append type (List.not_mem_append (notMem_fixed hidden (by decide)) name)
  have number : c ∉ ("    [" : Text) ++ Text.ofNat index :=
    List.not_mem_append (notMem_fixed hidden (by decide)) (notMem_number hidden index)
  have front := List.not_mem_append number (notMem_fixed hidden (s := "] ") (by decide))
  exact ⟨_, List.not_mem_append front written, rfl⟩

theorem isLine_tokenLine {token : Text} (clean : c ∉ token) (index : Nat) :
    IsLine c (tokenLine index token) := by
  have number : c ∉ ("  [" : Text) ++ Text.ofNat index :=
    List.not_mem_append (notMem_fixed hidden (by decide)) (notMem_number hidden index)
  have front := List.not_mem_append number (notMem_fixed hidden (s := "] ") (by decide))
  exact ⟨_, List.not_mem_append front clean, rfl⟩

theorem notMem_tally (parsed failed : Nat) :
    c ∉ Text.ofNat parsed ++ " parsed, " ++ Text.ofNat failed ++ " failed" := by
  have first : c ∉ Text.ofNat parsed ++ (" parsed, " : Text) :=
    List.not_mem_append (notMem_number hidden _) (notMem_fixed hidden (by decide))
  exact List.not_mem_append (List.not_mem_append first (notMem_number hidden _))
    (notMem_fixed hidden (by decide))

theorem isLine_of_mem_signatureLines {sig : Signature} (clean : ∀ t ∈ sig.words, c ∉ t) :
    ∀ l ∈ signatureLines false sig, IsLine c l := by
  intro l mem
  rw [signatureLines, List.mem_append] at mem
  rcases mem with detail | argument
  · have modifier : c ∉ sig.modifier.getD "(none)" := by
      cases present : sig.modifier with
      | none => exact notMem_fixed hidden (by decide)
      | some m => exact clean m (by simp [Signature.words, present])
    have returnType : c ∉ sig.returnType := clean _ (by simp [Signature.words])
    have name : c ∉ sig.name := clean _ (by simp [Signature.words])
    simp only [List.mem_cons, List.not_mem_nil, or_false] at detail
    rcases detail with rfl | rfl | rfl | rfl
    · exact isLine_detailLine hidden (by decide) modifier
    · exact isLine_detailLine hidden (by decide) returnType
    · exact isLine_detailLine hidden (by decide) name
    · exact isLine_detailLine hidden (by decide) (notMem_number hidden _)
  · obtain ⟨⟨a, index⟩, numbered, rfl⟩ := List.mem_map.mp argument
    have here : a ∈ sig.arguments := List.fst_mem_of_mem_zipIdx numbered
    have pair : ∀ t ∈ [a.type, a.name], c ∉ t := by
      intro t word
      apply clean t
      rw [Signature.words, List.mem_append, List.mem_flatMap]
      exact .inr ⟨a, here, word⟩
    have type : c ∉ a.type := pair _ List.mem_cons_self
    have name : c ∉ a.name := pair _ (List.mem_cons_of_mem _ List.mem_cons_self)
    exact isLine_argumentLine hidden type name index

theorem isLine_header {input : Text} (clean : c ∉ input) (mark : Text)
    (printed : IsPrinted mark) : IsLine c (mark ++ input ++ "\n") :=
  ⟨_, List.not_mem_append (notMem_fixed hidden printed) clean, rfl⟩

theorem isLine_fault (fault : Signature.Fault) :
    IsLine c ("  " ++ fault.message ++ "\n") := by
  refine ⟨_, notMem_fixed hidden ?_, rfl⟩
  cases fault <;> decide

theorem isLine_of_mem_reportLines {r : Report} (clean : ∀ t ∈ r.texts, c ∉ t) :
    ∀ l ∈ reportLines false r, IsLine c l := by
  obtain ⟨input, outcome⟩ := r
  have shown : c ∉ input := clean input List.mem_cons_self
  intro l mem
  cases outcome with
  | ok sig =>
    have words : ∀ t ∈ sig.words, c ∉ t := fun t word => clean t (List.mem_cons_of_mem _ word)
    rcases List.mem_cons.mp mem with rfl | later
    · exact isLine_header hidden shown "[OK] " (by decide)
    · exact isLine_of_mem_signatureLines hidden words l later
  | error fault =>
    simp only [reportLines, List.mem_cons, List.not_mem_nil, or_false] at mem
    rcases mem with rfl | rfl
    · exact isLine_header hidden shown "[FAIL] " (by decide)
    · exact isLine_fault hidden fault

/-- Lines without color hold what the texts hold, and no line feed or escape character else. -/
theorem isLine_of_mem_lines {d : Document} (clean : ∀ t ∈ d.texts, c ∉ t) :
    ∀ l ∈ lines false d, IsLine c l := by
  intro l mem
  cases d with
  | reports rs =>
    rw [lines, List.mem_append, List.mem_flatMap, List.mem_singleton] at mem
    rcases mem with ⟨r, here, inside⟩ | rfl
    · have texts : ∀ t ∈ r.texts, c ∉ t :=
        fun t shown => clean t (List.mem_flatMap.mpr ⟨r, here, shown⟩)
      exact isLine_of_mem_reportLines hidden texts l inside
    · exact ⟨_, notMem_tally hidden _ _, rfl⟩
  | split result =>
    rcases List.mem_cons.mp mem with rfl | later
    · exact ⟨_, List.not_mem_append (notMem_number hidden _) (notMem_fixed hidden (by decide)),
        rfl⟩
    · obtain ⟨⟨token, index⟩, numbered, rfl⟩ := List.mem_map.mp later
      exact isLine_tokenLine hidden (clean token (List.fst_mem_of_mem_zipIdx numbered)) index

end IsLine

theorem escape_notMem_lines {d : Document} (clean : ∀ t ∈ d.texts, '\x1b' ∉ t) :
    ∀ l ∈ lines false d, '\x1b' ∉ l := by
  intro l mem
  obtain ⟨body, free, rfl⟩ := isLine_of_mem_lines (by decide) clean l mem
  exact List.not_mem_append free (by decide)

end Terminal

namespace Writer

def Step.lines (on : Bool) : Step → List Text
  | .write d => Terminal.lines on d
  | .flush => []

theorem flatMap_octets (on : Bool) (steps : List Step) :
    steps.flatMap (octets ⟨.terminal, on⟩) =
      Text.encode (steps.flatMap (Step.lines on)).flatten := by
  induction steps with
  | nil => rfl
  | cons s steps ih =>
    have first : octets ⟨.terminal, on⟩ s = Text.encode (s.lines on).flatten := by
      cases s <;> rfl
    rw [List.flatMap_cons, List.flatMap_cons, List.flatten_append, Text.encode_append, ih, first]

theorem strip_flatten_lines (on : Bool) (steps : List Step) :
    strip sequences (steps.flatMap (Step.lines on)).flatten =
      ((steps.flatMap (Step.lines false)).map (strip sequences)).flatten := by
  have breaks : ∀ q ∈ sequences, '\n' ∉ q := by decide
  have ended : ∀ l ∈ steps.flatMap (Step.lines on), l = [] ∨ l.getLast? = some '\n' := by
    intro l mem
    obtain ⟨s, -, inside⟩ := List.mem_flatMap.mp mem
    cases s with
    | write d => exact .inr (Terminal.lines_ended on d l inside)
    | flush => exact absurd inside List.not_mem_nil
  have same (s : Step) :
      (s.lines on).map (strip sequences) = (s.lines false).map (strip sequences) := by
    cases s with
    | write d => exact Terminal.map_strip_lines on d
    | flush => rfl
  rw [marked_sequences.strip_flatten breaks ended, List.map_flatMap, List.map_flatMap]
  simp only [same]

theorem sinkAfter_terminal_stored (mode : Color.Mode) (steps : List Step) :
    ((ofMode .terminal mode).sinkAfter {} steps).stored =
      Text.encode (steps.flatMap (Step.lines mode.enabled)).flatten := by
  rw [((ofMode .terminal mode).sinkAfter_of_unlimited rfl steps).1, List.nil_append]
  exact flatMap_octets mode.enabled steps

/-- Runs with color and without leave the same behind once all sequences are deleted; and if no
text in them holds an escape character, deleting the sequences of the one gives the other. -/
theorem strip_sinkAfter_terminal (steps : List Step) :
    strip octetSequences ((ofMode .terminal .always).sinkAfter {} steps).stored =
        strip octetSequences ((ofMode .terminal .never).sinkAfter {} steps).stored ∧
      ((∀ d, .write d ∈ steps → ∀ t ∈ d.texts, '\x1b' ∉ t) →
        strip octetSequences ((ofMode .terminal .always).sinkAfter {} steps).stored =
          ((ofMode .terminal .never).sinkAfter {} steps).stored) := by
  have agree : strip octetSequences ((ofMode .terminal .always).sinkAfter {} steps).stored =
      strip octetSequences ((ofMode .terminal .never).sinkAfter {} steps).stored := by
    rw [sinkAfter_terminal_stored, sinkAfter_terminal_stored, strip_encode, strip_encode,
      strip_flatten_lines, strip_flatten_lines]
  refine ⟨agree, fun clean => ?_⟩
  have plain : '\x1b' ∉ (steps.flatMap (Step.lines false)).flatten := by
    intro mem
    obtain ⟨l, among, inside⟩ := List.mem_flatten.mp mem
    obtain ⟨s, here, line⟩ := List.mem_flatMap.mp among
    cases s with
    | write d => exact Terminal.escape_notMem_lines (clean d here) l line inside
    | flush => exact absurd line List.not_mem_nil
  have octets : ((ofMode .terminal .never).sinkAfter {} steps).stored =
      Text.encode (steps.flatMap (Step.lines false)).flatten :=
    sinkAfter_terminal_stored .never steps
  rw [agree, octets, strip_encode, marked_sequences.strip_of_notMem plain]

def faultySteps : List Step := [.write (.reports [⟨"f()", .error .wordCount⟩]), .flush]

theorem strip_sinkAfter_faultySteps :
    (∀ d, .write d ∈ faultySteps → ∀ t ∈ d.texts, '\x1b' ∉ t) ∧
      strip octetSequences ((ofMode .terminal .always).sinkAfter {} faultySteps).stored =
        ((ofMode .terminal .never).sinkAfter {} faultySteps).stored := by
  have clean : ∀ d, .write d ∈ faultySteps → ∀ t ∈ d.texts, '\x1b' ∉ t := by
    intro d mem t shown
    have only : d = .reports [⟨"f()", .error .wordCount⟩] := by simpa [faultySteps] using mem
    rw [only, Document.texts, List.flatMap_singleton, Report.texts, List.mem_singleton] at shown
    rw [shown]
    decide
  exact ⟨clean, (strip_sinkAfter_terminal faultySteps).2 clean⟩

end Writer

end MethodSignature
