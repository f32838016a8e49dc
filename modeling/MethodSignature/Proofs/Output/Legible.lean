import MethodSignature.Proofs.Output.Tally
import MethodSignature.Proofs.Signature.RoundTrip

/-!
Reading plain reports back. Nothing in them is quoted, but every line ends where the line feed
stands, the number of arguments stands before them, and a word cannot hold what would end it. So a
report can be told from all that follows it, and the lines of a list of reports determine the list.
-/

namespace MethodSignature

/-- The report shows no line feed, and what was read is of the shape that reading gives. -/
structure Report.Legible (r : Report) : Prop where
  unbroken : ∀ t ∈ r.texts, '\n' ∉ t
  wellFormed : ∀ sig, r.outcome = .ok sig → sig.WellFormed

instance (r : Report) : Decidable r.Legible :=
  decidable_of_iff
    ((∀ t ∈ r.texts, '\n' ∉ t) ∧ ∀ sig ∈ r.outcome.toOption, sig.WellFormed) <| by
    have read (sig : Signature) : sig ∈ r.outcome.toOption ↔ r.outcome = .ok sig := by
      cases r.outcome <;> simp [Except.toOption]
    simp only [read]
    exact ⟨fun h => ⟨h.1, h.2⟩, fun h => ⟨h.unbroken, h.wellFormed⟩⟩

/-- No word in place of a modifier is `(none)`, which has brackets. -/
theorem Signature.modifier_of_shown {sig other : Signature} (wellFormed : sig.WellFormed)
    (wellFormed' : other.WellFormed)
    (same : sig.modifier.getD "(none)" = other.modifier.getD "(none)") :
    sig.modifier = other.modifier := by
  have bracketless {sig : Signature} (wellFormed : sig.WellFormed) :
      ∀ m ∈ sig.modifier, m ≠ "(none)" := fun m mem none =>
    (wellFormed.modifier m mem).2 '(' (by decide) (none ▸ by decide)
  cases here : sig.modifier with
  | none =>
    cases there : other.modifier with
    | none => rfl
    | some m =>
      rw [here, there] at same
      exact absurd same.symm (bracketless wellFormed' m there)
  | some m =>
    cases there : other.modifier with
    | none =>
      rw [here, there] at same
      exact absurd same (bracketless wellFormed m here)
    | some k =>
      rw [here, there] at same
      exact congrArg some same

namespace Terminal

open Text

theorem IsLine.append_inj {l k s t : Text} (line : IsLine '\n' l) (other : IsLine '\n' k)
    (same : l ++ s = k ++ t) : l = k ∧ s = t := by
  obtain ⟨body, clean, rfl⟩ := line
  obtain ⟨body', clean', rfl⟩ := other
  rw [List.append_assoc, List.append_assoc] at same
  obtain ⟨bodies, rests⟩ := append_cons_inj_of_notMem clean clean' same
  exact ⟨by rw [bodies], rests⟩

theorem flatten_append_inj {ls ks : List Text} (lines : ∀ l ∈ ls, IsLine '\n' l)
    (others : ∀ k ∈ ks, IsLine '\n' k) (count : ls.length = ks.length) {s t : Text}
    (same : ls.flatten ++ s = ks.flatten ++ t) : ls = ks ∧ s = t := by
  induction ls generalizing ks with
  | nil =>
    obtain rfl := List.length_eq_zero_iff.mp count.symm
    exact ⟨rfl, same⟩
  | cons l ls ih =>
    cases ks with
    | nil => exact absurd count nofun
    | cons k ks =>
      obtain ⟨first, lines⟩ := List.forall_mem_cons.mp lines
      obtain ⟨first', others⟩ := List.forall_mem_cons.mp others
      rw [List.flatten_cons, List.flatten_cons, List.append_assoc, List.append_assoc] at same
      obtain ⟨here, rests⟩ := first.append_inj first' same
      obtain ⟨later, rest⟩ := ih lines others (Nat.succ.inj count) rests
      exact ⟨by rw [here, later], rest⟩

theorem detailLine_inj {label value other : Text}
    (same : detailLine false label value = detailLine false label other) : value = other :=
  List.append_cancel_left (List.append_cancel_right same)

def details (sig : Signature) : List Text :=
  [detailLine false "access modifier:" (sig.modifier.getD "(none)"),
    detailLine false "return type:    " sig.returnType,
    detailLine false "method name:    " sig.name,
    detailLine false "arguments:      " (Text.ofNat sig.arguments.length)]

def argumentLines (start : Nat) (as : List Argument) : List Text :=
  (as.zipIdx start).map fun (a, index) => argumentLine index a

theorem signatureLines_eq (sig : Signature) :
    signatureLines false sig = details sig ++ argumentLines 0 sig.arguments := rfl

theorem details_inj {sig other : Signature} (wellFormed : sig.WellFormed)
    (wellFormed' : other.WellFormed) (same : details sig = details other) :
    sig.head = other.head ∧ sig.arguments.length = other.arguments.length := by
  simp only [details, List.cons.injEq, and_true] at same
  obtain ⟨modifiers, returnTypes, names, counts⟩ := same
  constructor
  · rw [Signature.head, Signature.head, detailLine_inj returnTypes, detailLine_inj names,
      Signature.modifier_of_shown wellFormed wellFormed' (detailLine_inj modifiers)]
  · exact ofNat_inj.mp (detailLine_inj counts)

theorem argumentLine_inj {index : Nat} {a b : Argument} (type : ' ' ∉ a.type)
    (type' : ' ' ∉ b.type) (same : argumentLine index a = argumentLine index b) : a = b := by
  have written : a.render = b.render :=
    List.append_cancel_left (List.append_cancel_right same)
  obtain ⟨types, names⟩ := append_cons_inj_of_notMem type type' written
  cases a
  cases b
  exact congrArg₂ Argument.mk types names

theorem argumentLines_inj {as bs : List Argument} {start : Nat} (types : ∀ a ∈ as, ' ' ∉ a.type)
    (types' : ∀ b ∈ bs, ' ' ∉ b.type) (same : argumentLines start as = argumentLines start bs) :
    as = bs := by
  induction as generalizing bs start with
  | nil =>
    cases bs with
    | nil => rfl
    | cons b bs => nomatch same
  | cons a as ih =>
    cases bs with
    | nil => nomatch same
    | cons b bs =>
      obtain ⟨type, types⟩ := List.forall_mem_cons.mp types
      obtain ⟨type', types'⟩ := List.forall_mem_cons.mp types'
      obtain ⟨first, rest⟩ := List.cons.inj same
      rw [argumentLine_inj type type' first, ih types types' rest]

/-- The lines of a signature end by themselves: the last detail says how many are to come. -/
theorem signatureLines_append_inj {sig other : Signature} (wellFormed : sig.WellFormed)
    (wellFormed' : other.WellFormed) (clean : ∀ w ∈ sig.words, '\n' ∉ w)
    (clean' : ∀ w ∈ other.words, '\n' ∉ w) {s t : Text}
    (same : (signatureLines false sig).flatten ++ s = (signatureLines false other).flatten ++ t) :
    sig = other ∧ s = t := by
  have lines := isLine_of_mem_signatureLines (by decide) clean
  have lines' := isLine_of_mem_signatureLines (by decide) clean'
  rw [signatureLines_eq] at same lines
  rw [signatureLines_eq] at same lines'
  rw [List.flatten_append, List.flatten_append, List.append_assoc, List.append_assoc] at same
  obtain ⟨shown, numbered⟩ := List.forall_mem_append.mp lines
  obtain ⟨shown', numbered'⟩ := List.forall_mem_append.mp lines'
  -- There are four details on either side, and they give the number of the other lines.
  obtain ⟨heads, lists⟩ := flatten_append_inj shown shown' rfl same
  obtain ⟨sameHead, counts⟩ := details_inj wellFormed wellFormed' heads
  have lengths : (argumentLines 0 sig.arguments).length =
      (argumentLines 0 other.arguments).length := by
    simpa [argumentLines] using counts
  obtain ⟨args, rests⟩ := flatten_append_inj numbered numbered' lengths lists
  have types {sig : Signature} (wellFormed : sig.WellFormed) :
      ∀ a ∈ sig.arguments, ' ' ∉ a.type :=
    fun a mem => (wellFormed.arguments a mem).type.2 ' ' (by decide)
  have arguments := argumentLines_inj (types wellFormed) (types wellFormed') args
  refine ⟨?_, rests⟩
  calc
    sig = .ofHead sig.head sig.arguments := rfl
    _ = .ofHead other.head other.arguments := by rw [sameHead, arguments]

theorem flatten_reportLines_ok (input : Text) (sig : Signature) :
    (reportLines false ⟨input, .ok sig⟩).flatten =
      ("[OK] " ++ input ++ "\n") ++ (signatureLines false sig).flatten := rfl

theorem flatten_reportLines_error (input : Text) (fault : Signature.Fault) :
    (reportLines false ⟨input, .error fault⟩).flatten =
      ("[FAIL] " ++ input ++ "\n") ++ ("  " ++ fault.message ++ "\n") :=
  congrArg _ (List.append_nil _)

theorem header_append_inj {mark input input' s t : Text} (printed : IsPrinted mark)
    (clean : '\n' ∉ input) (clean' : '\n' ∉ input')
    (same : (mark ++ input ++ "\n") ++ s = (mark ++ input' ++ "\n") ++ t) :
    input = input' ∧ s = t := by
  have header := isLine_header (by decide) clean mark printed
  have header' := isLine_header (by decide) clean' mark printed
  obtain ⟨headers, rests⟩ := header.append_inj header' same
  exact ⟨List.append_cancel_left (List.append_cancel_right headers), rests⟩

theorem fault_append_inj {fault fault' : Signature.Fault} {s t : Text}
    (same : ("  " ++ fault.message ++ "\n") ++ s = ("  " ++ fault'.message ++ "\n") ++ t) :
    fault = fault' ∧ s = t := by
  have line := isLine_fault (c := '\n') (by decide) fault
  have line' := isLine_fault (c := '\n') (by decide) fault'
  obtain ⟨lines, rests⟩ := line.append_inj line' same
  have messages : fault.message = fault'.message :=
    List.append_cancel_left (List.append_cancel_right lines)
  exact ⟨Signature.Fault.message_injective messages, rests⟩

/-- A report says where it ends, so what follows it cannot be taken for a part of it. -/
theorem reportLines_append_inj {r r' : Report} (legible : r.Legible) (legible' : r'.Legible)
    {s t : Text} (same : (reportLines false r).flatten ++ s = (reportLines false r').flatten ++ t) :
    r = r' ∧ s = t := by
  obtain ⟨input, outcome⟩ := r
  obtain ⟨input', outcome'⟩ := r'
  have clean : '\n' ∉ input := legible.unbroken input List.mem_cons_self
  have clean' : '\n' ∉ input' := legible'.unbroken input' List.mem_cons_self
  cases outcome with
  | ok sig =>
    cases outcome' with
    | ok sig' =>
      have words : ∀ w ∈ sig.words, '\n' ∉ w :=
        fun w mem => legible.unbroken w (List.mem_cons_of_mem _ mem)
      have words' : ∀ w ∈ sig'.words, '\n' ∉ w :=
        fun w mem => legible'.unbroken w (List.mem_cons_of_mem _ mem)
      rw [flatten_reportLines_ok, flatten_reportLines_ok, List.append_assoc _ _ s,
        List.append_assoc _ _ t] at same
      obtain ⟨inputs, blocks⟩ := header_append_inj (by decide) clean clean' same
      obtain ⟨signatures, rests⟩ := signatureLines_append_inj (legible.wellFormed sig rfl)
        (legible'.wellFormed sig' rfl) words words' blocks
      exact ⟨by rw [inputs, signatures], rests⟩
    | error fault' =>
      have marks : some 'O' = some 'F' := congrArg (·[1]?) same
      exact absurd marks (by decide)
  | error fault =>
    cases outcome' with
    | ok sig' =>
      have marks : some 'F' = some 'O' := congrArg (·[1]?) same
      exact absurd marks (by decide)
    | error fault' =>
      rw [flatten_reportLines_error, flatten_reportLines_error, List.append_assoc _ _ s,
        List.append_assoc _ _ t] at same
      obtain ⟨inputs, blocks⟩ := header_append_inj (by decide) clean clean' same
      obtain ⟨faults, rests⟩ := fault_append_inj blocks
      exact ⟨by rw [inputs, faults], rests⟩

theorem head?_reportLines (r : Report) (s : Text) :
    ((reportLines false r).flatten ++ s).head? = some '[' := by
  obtain ⟨input, outcome⟩ := r
  cases outcome <;> rfl

/-- What closes a list of reports is taken for no report. -/
theorem flatMap_reportLines_append_inj {rs ss : List Report} (legible : ∀ r ∈ rs, r.Legible)
    (legible' : ∀ r ∈ ss, r.Legible) {s t : Text} (closing : s.head? ≠ some '[')
    (closing' : t.head? ≠ some '[')
    (same : (rs.flatMap (reportLines false)).flatten ++ s =
      (ss.flatMap (reportLines false)).flatten ++ t) : rs = ss := by
  induction rs generalizing ss with
  | nil =>
    cases ss with
    | nil => rfl
    | cons r ss =>
      -- A report starts with a bracket, and the text that closes the other list does not.
      rw [List.flatMap_nil, List.flatten_nil, List.nil_append, List.flatMap_cons,
        List.flatten_append, List.append_assoc] at same
      exact absurd (same ▸ head?_reportLines r _) closing
  | cons r rs ih =>
    cases ss with
    | nil =>
      rw [List.flatMap_nil, List.flatten_nil, List.nil_append, List.flatMap_cons,
        List.flatten_append, List.append_assoc] at same
      exact absurd (same ▸ head?_reportLines r _) closing'
    | cons r' ss =>
      obtain ⟨first, legible⟩ := List.forall_mem_cons.mp legible
      obtain ⟨first', legible'⟩ := List.forall_mem_cons.mp legible'
      rw [List.flatMap_cons, List.flatMap_cons, List.flatten_append, List.flatten_append,
        List.append_assoc, List.append_assoc] at same
      obtain ⟨here, rests⟩ := reportLines_append_inj first first' same
      rw [here, ih legible legible' rests]

theorem head?_summary (rs : List Report) : (summary rs ++ "\n").head? ≠ some '[' := by
  obtain ⟨c, digits, number, digit⟩ :=
    Text.exists_digit_cons_ofNat (rs.length - Report.failures rs)
  rw [summary, number]
  intro bracket
  have same : c = '[' := Option.some.inj bracket
  rw [same] at digit
  exact absurd digit (by decide)

theorem render_reports (rs : List Report) :
    (Document.reports rs).render .terminal false =
      (rs.flatMap (reportLines false)).flatten ++ (summary rs ++ "\n") := by
  rw [Document.render, Document.chunks, lines, List.flatten_append, List.flatten_singleton]
  rfl

end Terminal

namespace Writer

/-- Plain reports determine the reports, whatever their inputs imitate. -/
theorem sinkAfter_plain_inj {rs ss : List Report} (legible : ∀ r ∈ rs ++ ss, r.Legible) :
    ((ofMode .terminal .never).sinkAfter {} [.write (.reports rs)]).stored =
        ((ofMode .terminal .never).sinkAfter {} [.write (.reports ss)]).stored ↔ rs = ss := by
  have written (rs : List Report) :
      ((ofMode .terminal .never).sinkAfter {} [.write (.reports rs)]).stored =
        Text.encode ((Document.reports rs).render .terminal false) := by
    have one := sinkAfter_write_stored (ofMode .terminal .never) [.reports rs]
    rw [List.flatMap_singleton] at one
    exact one
  obtain ⟨legible, legible'⟩ := List.forall_mem_append.mp legible
  rw [written, written, Text.encode_inj, Terminal.render_reports, Terminal.render_reports]
  constructor
  · exact Terminal.flatMap_reportLines_append_inj legible legible' (Terminal.head?_summary rs)
      (Terminal.head?_summary ss)
  · rintro rfl
    rfl

def imitations (modifier : Option Text) : List Report :=
  [⟨"  access modifier: none", .ok ⟨modifier, "[FAIL]", "f", [⟨"1", "parsed"⟩]⟩⟩,
    ⟨"1 parsed, 1 failed", .error .wordCount⟩]

theorem sinkAfter_imitations :
    (∀ r ∈ imitations none ++ imitations (some "none"), r.Legible) ∧
      ((ofMode .terminal .never).sinkAfter {} [.write (.reports (imitations none))]).stored ≠
        ((ofMode .terminal .never).sinkAfter {}
          [.write (.reports (imitations (some "none")))]).stored := by
  have legible : ∀ r ∈ imitations none ++ imitations (some "none"), r.Legible := by decide
  refine ⟨legible, fun same => ?_⟩
  have lists := (sinkAfter_plain_inj legible).mp same
  simp [imitations] at lists

end Writer

end MethodSignature
