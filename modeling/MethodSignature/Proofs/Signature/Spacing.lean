import MethodSignature.Proofs.Signature.Grammar

/-!
What of a written signature counts for nothing: how much space stands around the words in front of
the brackets, whether one space follows a comma, and all text behind the closing bracket. Texts
that differ in nothing else are read alike, also where they are rejected.
-/

namespace MethodSignature.Signature
open Brackets Split

/-- `Loosened list loose`: `loose` is `list` with one space put in behind some of the commas that
no space follows. -/
inductive Loosened : Text → Text → Prop
  | nil : Loosened [] []
  | keep {c : Char} {s t : Text} (rest : Loosened s t) : Loosened (c :: s) (c :: t)
  | space {s t : Text} (tight : s.head? ≠ some ' ') (rest : Loosened s t) :
      Loosened (',' :: s) (',' :: ' ' :: t)

theorem Loosened.refl : (s : Text) → Loosened s s
  | [] => .nil
  | _ :: s => .keep (.refl s)

theorem Loosened.prepend {s t : Text} (loosened : Loosened s t) :
    (front : Text) → Loosened (front ++ s) (front ++ t)
  | [] => loosened
  | _ :: front => .keep (loosened.prepend front)

theorem Loosened.mem {s t : Text} (loosened : Loosened s t) {c : Char} (inside : c ∈ t) :
    c = ' ' ∨ c ∈ s := by
  induction loosened with
  | nil => exact .inr inside
  | keep _ ih =>
    cases List.mem_cons.mp inside with
    | inl here => exact .inr (here ▸ List.mem_cons_self)
    | inr later => exact (ih later).imp id (List.mem_cons_of_mem _)
  | space _ _ ih =>
    simp only [List.mem_cons] at inside
    rcases inside with rfl | rfl | later
    · exact .inr List.mem_cons_self
    · exact .inl rfl
    · exact (ih later).imp id (List.mem_cons_of_mem _)

theorem closeCommas_of_ne {c : Char} (other : c ≠ ',') (s : Text) :
    closeCommas (c :: s) = c :: closeCommas s :=
  closeCommas.eq_2 c s fun _ comma _ => other comma

theorem closeCommas_comma (s : Text) :
    closeCommas (',' :: s) = ',' :: closeCommas (dropSpace s) := by
  unfold dropSpace
  split
  · rfl
  · rename_i tight
    exact closeCommas.eq_2 ',' s fun t _ spaced => tight t spaced

/-- A leading space belongs to no comma, so it may be taken off before or after. -/
theorem dropSpace_closeCommas (s : Text) :
    dropSpace (closeCommas s) = closeCommas (dropSpace s) := by
  cases s with
  | nil => rfl
  | cons c s =>
    by_cases space : c = ' '
    · subst space
      rw [closeCommas_of_ne (by decide)]
      rfl
    · have kept : dropSpace (c :: s) = c :: s := dropSpace_eq_self (by simpa using space)
      have leads : (closeCommas (c :: s)).head? = some c := by
        by_cases comma : c = ','
        · rw [comma, closeCommas_comma]
          rfl
        · rw [closeCommas_of_ne comma]
          rfl
      rw [kept, dropSpace_eq_self]
      rw [leads]
      simpa using space

theorem Loosened.closeCommas_eq {s t : Text} (loosened : Loosened s t) :
    closeCommas t = closeCommas s := by
  induction loosened with
  | nil => rfl
  | @keep c s t _ ih =>
    by_cases comma : c = ','
    · -- The kept comma takes the space that follows it on either side.
      rw [comma, closeCommas_comma, closeCommas_comma, ← dropSpace_closeCommas, ih,
        dropSpace_closeCommas]
    · rw [closeCommas_of_ne comma, closeCommas_of_ne comma, ih]
  | @space s t tight _ ih =>
    have dropped : dropSpace (' ' :: t) = t := rfl
    rw [closeCommas_comma, closeCommas_comma, dropped, dropSpace_eq_self tight, ih]

theorem readArguments_congr {list other : Text} (same : closeCommas list = closeCommas other) :
    readArguments list = readArguments other := by
  rw [readArguments, readArguments, same]

theorem readHead_congr {before other : Text} {ws : List Text}
    (words : IsRuns (· == ' ') before ws) (sameWords : IsRuns (· == ' ') other ws) :
    readHead before = readHead other := by
  rw [readHead, readHead, splitBy_singleton, splitBy_singleton, runs_eq_of_isRuns words,
    runs_eq_of_isRuns sameWords]

/-- Two texts with the same words in front of the brackets and, but for spaces behind commas, the
same list between them are read alike, with the same events on the way. -/
theorem read_congr {s t before before' list loose after after' : Text}
    (cut : Cut s before list after) (other : Cut t before' loose after') {ws : List Text}
    (words : IsRuns (· == ' ') before ws) (sameWords : IsRuns (· == ' ') before' ws)
    (loosened : Loosened list loose) : read t = read s := by
  rw [read_of_cut cut, read_of_cut other, readHead_congr sameWords words,
    readArguments_congr loosened.closeCommas_eq]

/-- The outcome, accepted or not, stays the same when the words in front of the brackets are set
apart by other runs of spaces, when commas get a space behind them, and when other text stands
behind the closing bracket. -/
theorem parse?_eq_of_loosened {s before before' list loose after : Text}
    (cut : Cut s before list after) (bracketless : '(' ∉ before' ∧ ')' ∉ before')
    {ws : List Text} (words : IsRuns (· == ' ') before ws)
    (sameWords : IsRuns (· == ' ') before' ws) (loosened : Loosened list loose)
    (after' : Text) : parse? (before' ++ '(' :: loose ++ ')' :: after') = parse? s := by
  have unclosed : ')' ∉ loose := fun inside => by
    cases loosened.mem inside with
    | inl space => exact absurd space (by decide)
    | inr inside => exact cut.closing_notMem_between inside
  have other : Cut (before' ++ '(' :: loose ++ ')' :: after') before' loose after' :=
    ⟨rfl, bracketless.1, bracketless.2, unclosed⟩
  rw [parse?, parse?, parse_value, parse_value,
    read_congr cut other words sameWords loosened]

theorem parse?_eq_of_looseList :
    parse? " void   f ( int a, (b c,  ,d e)" = parse? "void f( int a,(b c,  ,d e) throws )" ∧
      parse? "void f( int a,(b c,  ,d e) throws )" = .error .malformedArgument := by
  have cut : Cut "void f( int a,(b c,  ,d e) throws )" "void f" " int a,(b c,  ,d e"
      " throws )" := ⟨rfl, by decide, by decide, by decide⟩
  have words : IsRuns (· == ' ') "void f" ["void".toList, "f".toList] := runs_eq_iff.mp rfl
  have sameWords : IsRuns (· == ' ') " void   f " ["void".toList, "f".toList] :=
    runs_eq_iff.mp rfl
  have loosened : Loosened " int a,(b c,  ,d e" " int a, (b c,  ,d e" :=
    (Loosened.space (by decide) (.refl "(b c,  ,d e")).prepend " int a"
  exact ⟨parse?_eq_of_loosened cut (by decide) words sameWords loosened [], rfl⟩

end MethodSignature.Signature
