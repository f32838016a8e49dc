import MethodSignature.Proofs.Config.Locality
import MethodSignature.Proofs.Split.Tokens

/-!
Every configuration in use leaves a character to split at. A text that writes down delimiters
without a character is refused, and nothing else of what can be read is; what is used in place of
a refused file, another file or the defaults, has a delimiter as well.
-/

namespace MethodSignature.Config

def HasDelimiter (c : Config) : Prop := ∃ e, e ∈ c.splitDelimiters.flatten

def OnlyEmpty (c : Config) : Prop := ∃ held, c.split = some held ∧ ∀ d ∈ held.delimiters, d = []

variable {fs : FileSystem} {p : Path} {s : Text} {c : Config}

theorem splitsNowhere_iff : c.splitsNowhere = true ↔ c.OnlyEmpty := by
  unfold splitsNowhere OnlyEmpty
  cases c.split <;> simp

theorem hasDelimiter_iff : c.HasDelimiter ↔ ¬ c.OnlyEmpty := by
  unfold HasDelimiter OnlyEmpty splitDelimiters
  cases c.split with
  | none => simp
  | some held =>
    have bare : (∀ d ∈ held.delimiters, d = []) ↔ ∀ e, e ∉ held.delimiters.flatten := by
      rw [← List.flatten_eq_nil_iff, List.eq_nil_iff_forall_not_mem]
    simp [bare]

theorem hasDelimiter_default : default.HasDelimiter := ⟨' ', List.mem_singleton_self ' '⟩

theorem parse_of_decode (read : decode? s = some c) :
    c.OnlyEmpty ∧
        parse s =
          .error (.configuration "split.delimiters must contain at least one character") ∨
      c.HasDelimiter ∧ parse s = .ok c := by
  unfold parse
  rw [read]
  by_cases empty : c.OnlyEmpty
  · exact .inl ⟨empty, if_pos (splitsNowhere_iff.mpr empty)⟩
  · exact .inr ⟨hasDelimiter_iff.mpr empty, if_neg (mt splitsNowhere_iff.mp empty)⟩

theorem hasDelimiter_of_parse (parsed : parse s = .ok c) : c.HasDelimiter := by
  cases read : decode? s with
  | none => simp [parse, read] at parsed
  | some d =>
    rcases parse_of_decode read with ⟨-, refused⟩ | ⟨filled, kept⟩
    · rw [refused] at parsed
      cases parsed
    · rw [kept] at parsed
      cases parsed
      exact filled

theorem hasDelimiter_of_loadFile (loaded : loadFile fs p = .ok c) : c.HasDelimiter := by
  unfold loadFile at loaded
  split at loaded
  · cases loaded
  · split at loaded
    · cases loaded
    · cases loaded
      exact hasDelimiter_of_parse ‹_›

theorem Settled.hasDelimiter {ps : List Path} {last : Event} (settled : Settled fs ps c last) :
    c.HasDelimiter := by
  cases settled with
  | found held good rest => exact hasDelimiter_of_parse good
  | exhausted => exact hasDelimiter_default

theorem hasDelimiter_search (fs : FileSystem) (ps : List Path) :
    (search fs ps).value.HasDelimiter := by
  obtain ⟨notes, last, searched⟩ := exists_searched fs ps
  exact searched.settled.hasDelimiter

theorem hasDelimiter_load (fs : FileSystem) : (load fs).value.HasDelimiter := by
  unfold load
  split
  · exact hasDelimiter_search fs _
  · exact hasDelimiter_default

theorem hasDelimiter_iff_splits :
    c.HasDelimiter ↔ ∃ source ≠ [], splitBy c.splitDelimiters source ≠ [source] := by
  constructor
  · rintro ⟨e, mem⟩
    have cuts : ∀ x ∈ [e], Split.isDelimiter c.splitDelimiters x = true := by
      simpa [Split.isDelimiter_iff] using mem
    have gone : splitBy c.splitDelimiters [e] = [] := Split.runs_eq_of_isRuns (.gap cuts)
    exact ⟨[e], by simp, by simp [gone]⟩
  · rintro ⟨source, nonempty, apart⟩
    refine Classical.byContradiction fun bare => ?_
    have word : ∀ t ∈ [source], t ≠ [] ∧ ∀ e ∈ t, e ∉ c.splitDelimiters.flatten := by
      intro t mem
      rw [List.mem_singleton.mp mem]
      exact ⟨nonempty, fun e _ inside => bare ⟨e, inside⟩⟩
    have whole : Split.Parted (· ∈ c.splitDelimiters.flatten) source [] [source] [[]] :=
      ⟨word, by simp, by simp, rfl, by simp [Split.weave]⟩
    exact apart (Split.splitBy_eq_iff_parted.mpr ⟨[], [[]], whole⟩)

/-- No text, file, directory or tree gives a configuration without a delimiter. Of what can be
read, just the texts with empty delimiters only are refused, and the others mean what they say. -/
theorem used_hasDelimiter (fs : FileSystem) (p start : Path) (s : Text) :
    (∀ c, parse s = .ok c → c.HasDelimiter) ∧
      (∀ c, loadFile fs p = .ok c → c.HasDelimiter) ∧
      (loadFrom fs start).value.HasDelimiter ∧
      (load fs).value.HasDelimiter ∧
      (∀ c : Config,
        c.HasDelimiter ↔ ∃ source ≠ [], splitBy c.splitDelimiters source ≠ [source]) ∧
      ∀ c, decode? s = some c →
        ((∃ e, parse s = .error e) ↔ c.OnlyEmpty) ∧
          (∀ e, parse s = .error e →
            e = .configuration "split.delimiters must contain at least one character") ∧
          (¬ c.OnlyEmpty → parse s = .ok c) := by
  refine ⟨fun _ => hasDelimiter_of_parse, fun _ => hasDelimiter_of_loadFile,
    hasDelimiter_search fs _, hasDelimiter_load fs, fun _ => hasDelimiter_iff_splits,
    fun c read => ?_⟩
  rcases parse_of_decode read with ⟨empty, refused⟩ | ⟨filled, kept⟩
  · rw [refused]
    exact ⟨iff_of_true ⟨_, rfl⟩ empty, fun e failed => (Except.error.inj failed).symm,
      fun filled => absurd empty filled⟩
  · rw [kept]
    exact ⟨iff_of_false nofun (hasDelimiter_iff.mp filled), nofun, fun _ => rfl⟩

theorem parse_emptyDelimiters :
    (decode? "split = [[\"\", \"\"]]\n" = some ⟨none, some ⟨[[], []]⟩⟩ ∧
        ∃ e, parse "split = [[\"\", \"\"]]\n" = .error e) ∧
      decode? "split = [[\"\", \",\"]]\n" = some ⟨none, some ⟨[[], [',']]⟩⟩ ∧
        parse "split = [[\"\", \",\"]]\n" = .ok ⟨none, some ⟨[[], [',']]⟩⟩ := by
  have empty : decode? "split = [[\"\", \"\"]]\n" = some ⟨none, some ⟨[[], []]⟩⟩ := by
    decide +kernel
  have mixed : decode? "split = [[\"\", \",\"]]\n" = some ⟨none, some ⟨[[], [',']]⟩⟩ := by
    decide +kernel
  have used := used_hasDelimiter { tree := .empty, workingDirectory := [] } ⟨[]⟩ ⟨[]⟩
  obtain ⟨refused_iff, -, -⟩ := (used _).2.2.2.2.2 _ empty
  obtain ⟨-, -, kept⟩ := (used _).2.2.2.2.2 _ mixed
  exact ⟨⟨empty, refused_iff.mpr ⟨_, rfl, by simp⟩⟩, mixed, kept (by simp [OnlyEmpty])⟩

end MethodSignature.Config
