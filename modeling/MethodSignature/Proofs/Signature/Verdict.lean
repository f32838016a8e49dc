import MethodSignature.Proofs.Signature.Grammar

/-!
Which rule a text breaks, read off the raw text. Each condition is stated on the two texts that
the bracket pair cuts out; together they leave exactly one outcome for every text, and that is
the outcome of reading it.
-/

namespace MethodSignature.Signature
open Brackets Split

def HasHeadWords (before : Text) : Prop :=
  ∃ ws, IsRuns (· == ' ') before ws ∧ (ws.length = 2 ∨ ws.length = 3)

def HasMalformedArgument (list : Text) : Prop :=
  ∃ seg ∈ segments list, seg ≠ [] ∧ ∀ a, ¬ WrittenArgument seg a

theorem readHead_of_hasHeadWords {before : Text} (counted : HasHeadWords before) :
    ∃ head, readHead before = .ok head := by
  obtain ⟨ws, runs, two | three⟩ := counted
  · obtain ⟨returnType, name, rfl⟩ := List.length_eq_two.mp two
    exact ⟨⟨none, returnType, name⟩, readHead_eq_ok_iff.mpr runs⟩
  · obtain ⟨modifier, returnType, name, rfl⟩ := List.length_eq_three.mp three
    exact ⟨⟨some modifier, returnType, name⟩, readHead_eq_ok_iff.mpr runs⟩

theorem readHead_of_not_hasHeadWords {before : Text} (miscounted : ¬ HasHeadWords before) :
    readHead before = .error .wordCount := by
  have other (ws : List Text) (split : splitBy [[' ']] before = ws) :
      ¬ (ws.length = 2 ∨ ws.length = 3) := by
    rw [splitBy_singleton, runs_eq_iff] at split
    exact fun counted => miscounted ⟨ws, split, counted⟩
  rw [readHead]
  split
  · rename_i split
    exact absurd (.inl rfl) (other _ split)
  · rename_i split
    exact absurd (.inr rfl) (other _ split)
  · rfl

theorem readArguments_of_malformed {list : Text} (ungapped : ¬ HasEmptyArgument list)
    (malformed : HasMalformedArgument list) :
    (readArguments list).value = .error .malformedArgument := by
  obtain ⟨seg, mem, nonempty, unwritten⟩ := malformed
  rw [readArguments_value_of_not_empty ungapped, readTokens_value_eq_error_iff]
  refine ⟨rfl, seg, mem_filled.mpr ⟨mem, nonempty⟩, fun a accepted => unwritten a ?_⟩
  exact (readArgument_value_eq_ok_iff_written (notMem_of_mem_segments mem)).mp accepted

theorem readArguments_of_not_malformed {list : Text} (ungapped : ¬ HasEmptyArgument list)
    (wellFormed : ¬ HasMalformedArgument list) :
    ∃ args, (readArguments list).value = .ok args := by
  cases outcome : (readArguments list).value with
  | ok args => exact ⟨args, rfl⟩
  | error fault =>
      rw [readArguments_value_of_not_empty ungapped, readTokens_value_eq_error_iff] at outcome
      obtain ⟨-, seg, mem, refused⟩ := outcome
      obtain ⟨mem, nonempty⟩ := mem_filled.mp mem
      refine absurd ⟨seg, mem, nonempty, fun a written => refused a ?_⟩ wellFormed
      exact (readArgument_value_eq_ok_iff_written (notMem_of_mem_segments mem)).mpr written

/-- There is at most one cut, so that what some cut satisfies is what the given one does. -/
theorem exists_cut_and_iff {s before between after : Text} (cut : Cut s before between after)
    {P : Text → Text → Prop} :
    (∃ b m a, Cut s b m a ∧ P b m) ↔ P before between := by
  constructor
  · rintro ⟨b, m, a, other, holds⟩
    have same := cut.locate?.symm.trans other.locate?
    rw [Option.some.injEq] at same
    have left : before = b := by
      rw [← cut.before_eq, same, other.before_eq]
    have right : between = m := by
      rw [← cut.between_eq, same, other.between_eq]
    exact left ▸ right ▸ holds
  · intro holds
    exact ⟨before, between, after, cut, holds⟩

/-- Every text has exactly the outcome that the first rule it breaks gives, or is accepted when it
breaks none. -/
theorem parse?_verdict (s : Text) :
    (parse? s = .error .noBracketPair ↔ Unpaired s) ∧
    (parse? s = .error .wordCount ↔ ∃ before between after, Cut s before between after ∧
      ¬ HasHeadWords before) ∧
    (parse? s = .error .emptyArgument ↔ ∃ before between after, Cut s before between after ∧
      HasHeadWords before ∧ HasEmptyArgument between) ∧
    (parse? s = .error .malformedArgument ↔ ∃ before between after, Cut s before between after ∧
      HasHeadWords before ∧ ¬ HasEmptyArgument between ∧ HasMalformedArgument between) ∧
    ((∃ sig, parse? s = .ok sig) ↔ ∃ before between after, Cut s before between after ∧
      HasHeadWords before ∧ ¬ HasEmptyArgument between ∧ ¬ HasMalformedArgument between) := by
  by_cases unpaired : Unpaired s
  · have uncut (before between after : Text) : ¬ Cut s before between after :=
      fun cut => cut.not_unpaired unpaired
    simp [parse?_of_unpaired unpaired, unpaired, uncut]
  · obtain ⟨before, between, after, cut⟩ := exists_cut_of_not_unpaired unpaired
    simp only [exists_cut_and_iff cut, parse?_of_cut cut, unpaired]
    -- The rules are settled one by one in the order in which reading checks them.
    by_cases counted : HasHeadWords before
    · obtain ⟨head, headRead⟩ := readHead_of_hasHeadWords counted
      by_cases gapped : HasEmptyArgument between
      · have refused := readArguments_value_of_empty gapped
        simp [headRead, refused, counted, gapped, Except.bind, Except.map]
      · by_cases malformed : HasMalformedArgument between
        · have refused := readArguments_of_malformed gapped malformed
          simp [headRead, refused, counted, gapped, malformed, Except.bind, Except.map]
        · obtain ⟨args, argsRead⟩ := readArguments_of_not_malformed gapped malformed
          simp [headRead, argsRead, counted, gapped, malformed, Except.bind, Except.map]
    · simp [readHead_of_not_hasHeadWords counted, counted, Except.bind]

example : parse? "f(x,,y" = .error .noBracketPair := rfl
example : parse? "f(x,,y)" = .error .wordCount := rfl
example : parse? "int f(x, ,y)" = .error .emptyArgument := rfl
example : parse? "int f(x,  ,y)" = .error .malformedArgument := rfl

end MethodSignature.Signature
