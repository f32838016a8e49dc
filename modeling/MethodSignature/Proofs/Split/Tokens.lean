import MethodSignature.Proofs.Split.Runs

/-!
The tokens that splitting at delimiters gives. A text is gaps and tokens in turn in only one way,
and splitting finds that one; so all that counts of the delimiters is which characters they hold.
Splitting at more delimiters splits each token further, in whichever order that is done.
-/

namespace MethodSignature.Split

def weave (tokens gaps : List Text) : Text := (List.zipWith (· ++ ·) tokens gaps).flatten

theorem weave_nil (gaps : List Text) : weave [] gaps = [] := rfl

theorem weave_cons (t g : Text) (tokens gaps : List Text) :
    weave (t :: tokens) (g :: gaps) = t ++ (g ++ weave tokens gaps) := by
  simp [weave]

/-- `Parted cut source d₀ [t₁, …, tₙ] [d₁, …, dₙ]`: the source is `d₀ t₁ d₁ … tₙ dₙ`, the tokens
`t₁, …, tₙ` are words without a cut point, the gaps `d₀, …, dₙ` hold cut points only, and there
is something in each gap between two tokens. -/
structure Parted (cut : Char → Prop) (source first : Text) (tokens gaps : List Text) : Prop where
  words : ∀ t ∈ tokens, t ≠ [] ∧ ∀ c ∈ t, ¬ cut c
  cuts : ∀ d ∈ first :: gaps, ∀ c ∈ d, cut c
  apart : ∀ d ∈ gaps.dropLast, d ≠ []
  count : gaps.length = tokens.length
  whole : source = first ++ weave tokens gaps

section Parted

variable {cut : Char → Prop} {s first t g : Text} {tokens gaps : List Text}

theorem parted_nil_iff :
    Parted cut s first [] gaps ↔ gaps = [] ∧ s = first ∧ ∀ c ∈ first, cut c := by
  constructor
  · intro parted
    have empty : gaps = [] := List.length_eq_zero_iff.mp parted.count
    exact ⟨empty, by simpa [weave_nil] using parted.whole, parted.cuts first List.mem_cons_self⟩
  · rintro ⟨rfl, rfl, cuts⟩
    exact ⟨by simp, by simpa using cuts, by simp, rfl, by simp [weave_nil]⟩

theorem apart_cons_iff (count : gaps.length = tokens.length) :
    (∀ d ∈ (g :: gaps).dropLast, d ≠ []) ↔
      (tokens ≠ [] → g ≠ []) ∧ ∀ d ∈ gaps.dropLast, d ≠ [] := by
  have more : gaps ≠ [] ↔ tokens ≠ [] := by
    rw [← List.length_pos_iff, ← List.length_pos_iff, count]
  rw [← more]
  cases gaps <;> simp

/-- The first token taken off: what is left begins with the gap behind it. -/
theorem parted_cons_iff :
    Parted cut s first (t :: tokens) (g :: gaps) ↔
      (∀ c ∈ first, cut c) ∧ (t ≠ [] ∧ ∀ c ∈ t, ¬ cut c) ∧ (tokens ≠ [] → g ≠ []) ∧
        ∃ rest, s = first ++ t ++ rest ∧ Parted cut rest g tokens gaps := by
  constructor
  · rintro ⟨words, cuts, apart, count, whole⟩
    have count : gaps.length = tokens.length := Nat.succ.inj count
    obtain ⟨word, words⟩ := List.forall_mem_cons.mp words
    obtain ⟨front, cuts⟩ := List.forall_mem_cons.mp cuts
    obtain ⟨filled, apart⟩ := (apart_cons_iff count).mp apart
    refine ⟨front, word, filled, g ++ weave tokens gaps, ?_, words, cuts, apart, count, rfl⟩
    rw [whole, weave_cons, List.append_assoc]
  · rintro ⟨front, word, filled, rest, rfl, words, cuts, apart, count, rfl⟩
    refine ⟨List.forall_mem_cons.mpr ⟨word, words⟩, List.forall_mem_cons.mpr ⟨front, cuts⟩,
      (apart_cons_iff count).mpr ⟨filled, apart⟩, congrArg Nat.succ count, ?_⟩
    rw [weave_cons, List.append_assoc]

theorem Parted.ends_iff (parted : Parted cut s first tokens gaps) :
    (∀ c ∈ s.head?, cut c) ↔ (tokens ≠ [] → first ≠ []) := by
  cases first with
  | cons d first =>
    have head : s.head? = some d := by rw [parted.whole]; rfl
    have inside : cut d := parted.cuts _ List.mem_cons_self d List.mem_cons_self
    simp [head, inside]
  | nil =>
    cases tokens with
    | nil => simp [parted.whole, weave_nil]
    | cons t tokens =>
      cases gaps with
      | nil => exact absurd parted.count nofun
      | cons g gaps =>
        obtain ⟨-, ⟨nonempty, uncut⟩, -, rest, rfl, -⟩ := parted_cons_iff.mp parted
        obtain ⟨c, t, rfl⟩ := List.exists_cons_of_ne_nil nonempty
        have outside : ¬ cut c := uncut c List.mem_cons_self
        simp [outside]

theorem parted_joined {joints : List Text} (count : joints.length + 1 = tokens.length)
    (words : ∀ t ∈ tokens, t ≠ [] ∧ ∀ c ∈ t, ¬ cut c)
    (cuts : ∀ d ∈ joints, d ≠ [] ∧ ∀ c ∈ d, cut c) :
    Parted cut (weave tokens (joints ++ [[]])) [] tokens (joints ++ [[]]) := by
  refine ⟨words, fun d hd => ?_, fun d hd => ?_, by simpa using count, rfl⟩
  · have inside : d = [] ∨ d ∈ joints := by simpa [or_comm] using hd
    rcases inside with rfl | joint
    · exact nofun
    · exact (cuts d joint).2
  · rw [List.dropLast_concat] at hd
    exact (cuts d hd).1

end Parted

variable {isCut : Char → Bool} {s : Text} {ws : List Text}

theorem Parted.isRuns {first : Text} {gaps : List Text}
    (parted : Parted (isCut · = true) s first ws gaps) : IsRuns isCut s ws := by
  induction ws generalizing s first gaps with
  | nil =>
    obtain ⟨-, rfl, cuts⟩ := parted_nil_iff.mp parted
    exact .gap cuts
  | cons w ws ih =>
    cases gaps with
    | nil => exact absurd parted.count nofun
    | cons g gaps =>
      obtain ⟨cuts, ⟨nonempty, uncut⟩, filled, rest, rfl, further⟩ := parted_cons_iff.mp parted
      have clean : ∀ c ∈ w, isCut c = false := fun c hc => by simpa using uncut c hc
      exact .run cuts nonempty clean (further.ends_iff.mpr filled) (ih further)

theorem IsRuns.exists_parted (h : IsRuns isCut s ws) :
    ∃ first gaps, Parted (isCut · = true) s first ws gaps := by
  induction h with
  | @gap d cuts => exact ⟨d, [], parted_nil_iff.mpr ⟨rfl, rfl, cuts⟩⟩
  | @run d w s ws cuts nonempty uncut ends _ ih =>
    obtain ⟨first, gaps, parted⟩ := ih
    have clean : ∀ c ∈ w, ¬ isCut c = true := fun c hc => by simp [uncut c hc]
    exact ⟨d, first :: gaps, parted_cons_iff.mpr
      ⟨cuts, ⟨nonempty, clean⟩, parted.ends_iff.mp ends, s, rfl, parted⟩⟩

theorem runs_eq_iff_parted :
    runs isCut s = ws ↔ ∃ first gaps, Parted (isCut · = true) s first ws gaps := by
  rw [runs_eq_iff]
  exact ⟨IsRuns.exists_parted, fun ⟨_, _, parted⟩ => parted.isRuns⟩

theorem flatten_runs (isCut : Char → Bool) (s : Text) :
    (runs isCut s).flatten = s.filter (!isCut ·) := by
  obtain ⟨ws, h⟩ := exists_isRuns isCut s
  rw [runs_eq_of_isRuns h]
  induction h with
  | gap cuts =>
    have dropped := List.filter_eq_nil_iff (p := (!isCut ·)).mpr (by simpa using cuts)
    rw [dropped, List.flatten_nil]
  | @run d w s ws cuts _ uncut _ _ ih =>
    have dropped := List.filter_eq_nil_iff (p := (!isCut ·)).mpr (by simpa using cuts)
    have kept := List.filter_eq_self (p := (!isCut ·)).mpr (by simpa using uncut)
    rw [List.filter_append, List.filter_append, dropped, kept, List.nil_append,
      List.flatten_cons, ih]

theorem isDelimiter_iff {delimiters : List Text} {c : Char} :
    isDelimiter delimiters c = true ↔ c ∈ delimiters.flatten := by
  simp [isDelimiter]

theorem splitBy_eq_iff_parted {delimiters : List Text} {source : Text} {tokens : List Text} :
    splitBy delimiters source = tokens ↔
      ∃ first gaps, Parted (· ∈ delimiters.flatten) source first tokens gaps := by
  simp only [splitBy, runs_eq_iff_parted, isDelimiter_iff]

/-- Splitting gives the tokens between the gaps, and so gives tokens back that were joined by
delimiters, and loses nothing but delimiters. -/
theorem splitBy_outcome (delimiters : List Text) (source : Text) (tokens : List Text) :
    (splitBy delimiters source = tokens ↔
        ∃ first gaps, Parted (· ∈ delimiters.flatten) source first tokens gaps) ∧
      (∀ joints : List Text, joints.length + 1 = tokens.length →
        (∀ t ∈ tokens, t ≠ [] ∧ ∀ c ∈ t, c ∉ delimiters.flatten) →
        (∀ d ∈ joints, d ≠ [] ∧ ∀ c ∈ d, c ∈ delimiters.flatten) →
          splitBy delimiters (weave tokens (joints ++ [[]])) = tokens) ∧
      (splitBy delimiters source).flatten = source.filter (· ∉ delimiters.flatten) := by
  refine ⟨splitBy_eq_iff_parted, fun joints count words cuts => ?_, ?_⟩
  · exact splitBy_eq_iff_parted.mpr ⟨[], joints ++ [[]], parted_joined count words cuts⟩
  · have kept (c : Char) : (!isDelimiter delimiters c) = decide (c ∉ delimiters.flatten) := by
      rw [Bool.eq_iff_iff]
      simp only [Bool.not_eq_true', ← Bool.not_eq_true, isDelimiter_iff, decide_eq_true_eq]
    rw [splitBy, flatten_runs, funext kept]

example : splitBy ["-+", "", "+"] "a-b+c+-d" = (["a", "b", "c", "d"] : List Text) := by decide

theorem runs_append_of_ends {t : Text} (ends : ∀ c ∈ t.head?, isCut c = true) (s : Text) :
    runs isCut (s ++ t) = runs isCut s ++ runs isCut t := by
  cases t with
  | nil => simp [runs, pieces]
  | cons c t =>
    have cut : isCut c = true := ends c rfl
    have halves := List.splitOnP_append_cons s t cut
    rw [runs_cons_of_cut cut, runs, runs, runs, pieces_eq_splitOnP, halves, List.filter_append,
      pieces_eq_splitOnP, pieces_eq_splitOnP]

theorem pieces_congr {p q : Char → Bool} (same : ∀ c ∈ s, p c = q c) :
    pieces p s = pieces q s := by
  induction s with
  | nil => rfl
  | cons c s ih =>
    obtain ⟨here, later⟩ := List.forall_mem_cons.mp same
    rw [pieces, pieces, here, ih later]

theorem runs_congr {p q : Char → Bool} (same : ∀ c ∈ s, p c = q c) : runs p s = runs q s := by
  rw [runs, runs, pieces_congr same]

theorem runs_or (p q : Char → Bool) (s : Text) :
    runs (fun c => p c || q c) s = (runs p s).flatMap (runs q) := by
  obtain ⟨ws, h⟩ := exists_isRuns p s
  rw [runs_eq_of_isRuns h]
  induction h with
  | gap cuts => exact runs_eq_of_isRuns (.gap fun c hc => by simp [cuts c hc])
  | @run d w s ws cuts nonempty uncut ends _ ih =>
    -- a word lies between cut points of `p`, so inside it only those of `q` count
    have front : ∀ c ∈ d, (p c || q c) = true := fun c hc => by simp [cuts c hc]
    have behind : ∀ c ∈ s.head?, (p c || q c) = true := fun c hc => by simp [ends c hc]
    have inside : ∀ c ∈ w, (p c || q c) = q c := fun c hc => by simp [uncut c hc]
    rw [List.append_assoc, runs_cuts_append front, runs_append_of_ends behind, runs_congr inside,
      ih, List.flatMap_cons]

theorem splitBy_append (delimiters more : List Text) (source : Text) :
    splitBy (delimiters ++ more) source = (splitBy delimiters source).flatMap (splitBy more) := by
  have either : isDelimiter (delimiters ++ more) =
      fun c => isDelimiter delimiters c || isDelimiter more c := by
    funext c
    exact List.any_append
  have finer : splitBy more = runs (isDelimiter more) := rfl
  rw [splitBy, either, runs_or, finer, splitBy]

theorem splitBy_congr {delimiters others : List Text}
    (same : ∀ c, c ∈ delimiters.flatten ↔ c ∈ others.flatten) (source : Text) :
    splitBy delimiters source = splitBy others source := by
  refine runs_congr fun c _ => ?_
  rw [Bool.eq_iff_iff, isDelimiter_iff, isDelimiter_iff]
  exact same c

/-- Splitting at two lists of delimiters at once is splitting at one and each token at the other,
in either order. -/
theorem splitBy_both (delimiters more : List Text) (source : Text) :
    splitBy (delimiters ++ more) source = (splitBy delimiters source).flatMap (splitBy more) ∧
      (splitBy more source).flatMap (splitBy delimiters) =
        (splitBy delimiters source).flatMap (splitBy more) := by
  refine ⟨splitBy_append delimiters more source, ?_⟩
  rw [← splitBy_append, ← splitBy_append]
  refine splitBy_congr (fun c => ?_) source
  rw [List.flatten_append, List.flatten_append, List.mem_append, List.mem_append, or_comm]

end MethodSignature.Split
