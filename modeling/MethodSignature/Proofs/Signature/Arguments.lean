import MethodSignature.Signature.Arguments
import MethodSignature.Proofs.Split.Runs
import Mathlib.Data.List.DropRight
import Mathlib.Data.List.Forall2

/-!
What reading an argument list comes to. A token is accepted exactly when it is two words with one
space between them and spaces only behind them. The tokens are the segments of the raw list
between commas, each but the first without one leading space, and the check for empty arguments
is a condition on these segments or, equally, on the raw text.
-/

namespace MethodSignature.Signature

def IsWord (barred : List Char) (w : Text) : Prop := w ≠ [] ∧ ∀ c ∈ barred, c ∉ w

instance (barred : List Char) (w : Text) : Decidable (IsWord barred w) :=
  @instDecidableAnd _ _ inferInstance (List.decidableBAll (· ∉ w) barred)

/-- The token is type and name with one space between them and any number of spaces at the
end. -/
structure WrittenArgument (token : Text) (a : Argument) : Prop where
  type_isWord : IsWord [' ', ','] a.type
  name_isWord : IsWord [' ', ','] a.name
  text : ∃ n, token = a.type ++ ' ' :: a.name ++ List.replicate n ' '

theorem dropTrailingEmpty_eq_concat_iff {parts init : List Text} {last : Text} :
    Text.dropTrailingEmpty parts = init ++ [last] ↔
      last ≠ [] ∧ ∃ n, parts = init ++ [last] ++ List.replicate n [] := by
  change parts.rdropWhile List.isEmpty = _ ↔ _
  constructor
  · intro kept
    have filled : ¬ last.isEmpty := by
      have stops := List.rdropWhile_last_not List.isEmpty parts (by simp [kept])
      simpa [kept] using stops
    refine ⟨by simpa using filled, (parts.rtakeWhile List.isEmpty).length, ?_⟩
    have dropped : parts.rtakeWhile List.isEmpty =
        List.replicate (parts.rtakeWhile List.isEmpty).length [] := by
      refine List.eq_replicate_iff.mpr ⟨rfl, fun part mem => ?_⟩
      simpa using List.mem_rtakeWhile_imp mem
    rw [← dropped, ← kept, List.rdropWhile_append_rtakeWhile]
  · rintro ⟨filled, n, rfl⟩
    induction n with
    | zero => simp [List.rdropWhile_concat_neg, filled]
    | succ n ih =>
        rw [List.replicate_succ', ← List.append_assoc, List.rdropWhile_concat_pos _ _ _ rfl, ih]

theorem argumentParts_eq_pair_iff {token type name : Text} :
    argumentParts token = [type, name] ↔
      ' ' ∉ type ∧ ' ' ∉ name ∧ name ≠ [] ∧
        ∃ n, token = type ++ ' ' :: name ++ List.replicate n ' ' := by
  have joined (n : Nat) :
      type ++ (name :: List.replicate n []).flatMap (' ' :: ·) =
        type ++ ' ' :: name ++ List.replicate n ' ' := by
    simp [List.flatMap_replicate]
  have pair : argumentParts token = [type, name] ↔
      name ≠ [] ∧ ∃ n, token.splitOn ' ' = type :: name :: List.replicate n [] := by
    rw [argumentParts, Split.pieces_beq]
    exact @dropTrailingEmpty_eq_concat_iff _ [type] name
  rw [pair]
  constructor
  · rintro ⟨filled, n, split⟩
    obtain ⟨clean, text⟩ := Split.splitOn_eq_cons_iff.mp split
    rw [joined] at text
    exact ⟨clean type (by simp), clean name (by simp), filled, n, text⟩
  · rintro ⟨typeClean, nameClean, filled, n, text⟩
    refine ⟨filled, n, Split.splitOn_eq_cons_iff.mpr ⟨?_, text.trans (joined n).symm⟩⟩
    intro w mem
    simp only [List.mem_cons, List.mem_replicate] at mem
    rcases mem with rfl | rfl | ⟨-, rfl⟩
    · exact typeClean
    · exact nameClean
    · exact List.not_mem_nil

theorem readArgument_value_eq_ok_iff {token : Text} {a : Argument} :
    (readArgument token).value = .ok a ↔ argumentParts token = [a.type, a.name] ∧ a.type ≠ [] := by
  rw [readArgument]
  split
  · rename_i c type name parts
    rw [parts]
    constructor
    · intro accepted
      obtain rfl := Except.ok.inj accepted
      exact ⟨rfl, List.cons_ne_nil c type⟩
    · intro ⟨same, _⟩
      simp only [List.cons.injEq, and_true] at same
      rw [same.1, same.2]
  · rename_i other
    constructor
    · intro failed
      nomatch failed
    · rintro ⟨parts, filled⟩
      obtain ⟨c, type, typed⟩ := List.exists_cons_of_ne_nil filled
      exact absurd (typed ▸ parts) (other c type a.name)

theorem readArgument_value_eq_error {token : Text} {fault : Fault}
    (failed : (readArgument token).value = .error fault) : fault = .malformedArgument := by
  rw [readArgument] at failed
  split at failed
  · nomatch failed
  · exact (Except.error.inj failed).symm

theorem readArgument_value_eq_ok_iff_written {token : Text} (commaFree : ',' ∉ token)
    {a : Argument} : (readArgument token).value = .ok a ↔ WrittenArgument token a := by
  rw [readArgument_value_eq_ok_iff, argumentParts_eq_pair_iff]
  constructor
  · rintro ⟨⟨typeClean, nameClean, named, n, text⟩, typed⟩
    simp only [text, List.mem_append, List.mem_cons, not_or] at commaFree
    obtain ⟨⟨typeFree, -, nameFree⟩, -⟩ := commaFree
    exact ⟨⟨typed, by simp [typeClean, typeFree]⟩, ⟨named, by simp [nameClean, nameFree]⟩, n, text⟩
  · rintro ⟨⟨typed, typeClean⟩, ⟨named, nameClean⟩, n, text⟩
    exact ⟨⟨typeClean _ (by simp), nameClean _ (by simp), named, n, text⟩, typed⟩

theorem readTokens_value_eq_ok_iff {tokens : List Text} {args : List Argument} :
    (readTokens tokens).value = .ok args ↔
      List.Forall₂ (fun token a => (readArgument token).value = .ok a) tokens args := by
  induction tokens generalizing args with
  | nil =>
      rw [readTokens, Logged.pure_value, List.forall₂_nil_left_iff]
      exact ⟨fun h => (Except.ok.inj h).symm, fun h => h ▸ rfl⟩
  | cons token rest ih =>
      rw [List.forall₂_cons_left_iff]
      cases first : (readArgument token).value with
      | error fault => simp [readTokens, first]
      | ok a =>
          cases others : (readTokens rest).value with
          | error fault => simp [readTokens, first, others, Except.map, ← ih]
          | ok as =>
              simp only [readTokens, first, others, Except.map, ← ih, Except.ok.injEq]
              constructor
              · rintro rfl
                exact ⟨a, as, rfl, rfl, rfl⟩
              · rintro ⟨b, bs, rfl, rfl, rfl⟩
                rfl

theorem readTokens_value_eq_ok_iff_written {tokens : List Text} {args : List Argument}
    (commaFree : ∀ token ∈ tokens, ',' ∉ token) :
    (readTokens tokens).value = .ok args ↔ List.Forall₂ WrittenArgument tokens args := by
  rw [readTokens_value_eq_ok_iff]
  constructor
  · intro accepted
    have both := (List.forall₂_and_left tokens args).mpr ⟨commaFree, accepted⟩
    exact both.imp fun token a ⟨free, ok⟩ => (readArgument_value_eq_ok_iff_written free).mp ok
  · intro written
    have both := (List.forall₂_and_left tokens args).mpr ⟨commaFree, written⟩
    exact both.imp fun token a ⟨free, ok⟩ => (readArgument_value_eq_ok_iff_written free).mpr ok

theorem readTokens_value_eq_error_iff {tokens : List Text} {fault : Fault} :
    (readTokens tokens).value = .error fault ↔
      fault = .malformedArgument ∧ ∃ token ∈ tokens, ∀ a, (readArgument token).value ≠ .ok a := by
  induction tokens with
  | nil => simp [readTokens]
  | cons token rest ih =>
      cases first : (readArgument token).value with
      | error cause =>
          have known := readArgument_value_eq_error first
          simp [readTokens, first, known, eq_comm]
      | ok a =>
          have step : (readTokens (token :: rest)).value = .error fault ↔
              (readTokens rest).value = .error fault := by
            cases others : (readTokens rest).value <;> simp [readTokens, first, others, Except.map]
          simp [step, ih, first]

def dropSpace : Text → Text
  | ' ' :: s => s
  | s => s

/-- What stands between the commas of a list, each but the first without one leading space. -/
def segments (list : Text) : List Text :=
  match list.splitOn ',' with
  | [] => []
  | first :: rest => first :: rest.map dropSpace

theorem dropSpace_eq_self {s : Text} (h : s.head? ≠ some ' ') : dropSpace s = s := by
  unfold dropSpace
  split
  · simp at h
  · rfl

theorem segments_eq {list first : Text} {rest : List Text}
    (split : list.splitOn ',' = first :: rest) :
    segments list = first :: rest.map dropSpace := by
  rw [segments, split]

theorem splitOn_head?_ne {c d : Char} {s first : Text} {rest : List Text}
    (h : s.head? ≠ some d) (split : s.splitOn c = first :: rest) : first.head? ≠ some d := by
  obtain ⟨-, rfl⟩ := Split.splitOn_eq_cons_iff.mp split
  cases first with
  | nil => simp
  | cons e first => exact h

theorem splitOn_closeCommas (list : Text) : (closeCommas list).splitOn ',' = segments list := by
  fun_induction closeCommas list with
  | case1 s ih =>
      obtain ⟨first, rest, split⟩ := Split.exists_splitOn_eq_cons ',' s
      rw [segments_eq split] at ih
      have spaced : (',' :: ' ' :: s).splitOn ',' = [] :: (' ' :: first) :: rest := by
        simp [List.splitOn_cons_eq_if_modifyHead, split]
      rw [segments_eq spaced]
      simp [List.splitOn_cons_eq_if_modifyHead, ih, dropSpace]
  | case2 c s other ih =>
      obtain ⟨first, rest, split⟩ := Split.exists_splitOn_eq_cons ',' s
      rw [segments_eq split] at ih
      by_cases comma : c = ','
      -- No space follows this comma, so the segment behind it has none to lose.
      · have tight : s.head? ≠ some ' ' := by
          cases s with
          | nil => simp
          | cons d s =>
              intro space
              exact other s comma (by simpa using space)
        have bare : (c :: s).splitOn ',' = [] :: first :: rest := by
          simp [List.splitOn_cons_eq_if_modifyHead, comma, split]
        have kept := dropSpace_eq_self (splitOn_head?_ne tight split)
        rw [segments_eq bare]
        simp [List.splitOn_cons_eq_if_modifyHead, comma, ih, kept]
      · have grown : (c :: s).splitOn ',' = (c :: first) :: rest := by
          simp [List.splitOn_cons_eq_if_modifyHead, comma, split]
        rw [segments_eq grown]
        simp [List.splitOn_cons_eq_if_modifyHead, comma, ih]
  | case3 => rfl

theorem notMem_of_mem_segments {list seg : Text} (mem : seg ∈ segments list) : ',' ∉ seg := by
  rw [← splitOn_closeCommas] at mem
  exact Split.notMem_of_mem_splitOn mem

theorem hasInfix_iff {needle s : Text} : Text.hasInfix needle s = true ↔ needle <:+: s := by
  induction s with
  | nil => simp [Text.hasInfix]
  | cons c s ih => simp [Text.hasInfix, List.infix_cons_iff, ih]

theorem comma_isPrefix_iff {s first : Text} {rest : List Text}
    (split : s.splitOn ',' = first :: rest) : [','] <+: s ↔ first = [] ∧ rest ≠ [] := by
  obtain ⟨clean, rfl⟩ := Split.splitOn_eq_cons_iff.mp split
  have free : ',' ∉ first := clean first List.mem_cons_self
  cases first with
  | nil => cases rest <;> simp
  | cons c first =>
      have other : ',' ≠ c := fun same => free (same ▸ List.mem_cons_self)
      simp [other]

/-- Two neighbouring commas are a segment with nothing in it that is neither the first nor the
last. -/
theorem commas_isInfix_iff {s first : Text} {rest : List Text}
    (split : s.splitOn ',' = first :: rest) : [',', ','] <:+: s ↔ [] ∈ rest.dropLast := by
  induction s generalizing first rest with
  | nil =>
      obtain ⟨rfl, rfl⟩ : [] = first ∧ [] = rest := by simpa using split
      simp
  | cons c s ih =>
      obtain ⟨f, r, tail⟩ := Split.exists_splitOn_eq_cons ',' s
      rw [List.splitOn_cons_eq_if_modifyHead, tail] at split
      rw [List.infix_cons_iff, List.cons_prefix_cons, comma_isPrefix_iff tail, ih tail]
      by_cases comma : c = ','
      · obtain ⟨rfl, rfl⟩ : [] = first ∧ f :: r = rest := by simpa [comma] using split
        -- The piece behind this comma is a gap only if another comma ends it.
        cases r with
        | nil => simp
        | cons g r => simp [comma, eq_comm]
      · obtain ⟨rfl, rfl⟩ : c :: f = first ∧ r = rest := by simpa [comma] using split
        simp [Ne.symm comma]

/-- Two commas of the raw list have nothing or just one space between them. -/
def HasEmptyArgument (list : Text) : Prop :=
  [',', ','] <:+: list ∨ [',', ' ', ','] <:+: list

theorem comma_isPrefix_closeCommas_iff {list : Text} :
    [','] <+: closeCommas list ↔ [','] <+: list := by
  fun_cases closeCommas list <;> simp

theorem commas_isInfix_closeCommas_iff (list : Text) :
    [',', ','] <:+: closeCommas list ↔ HasEmptyArgument list := by
  rw [HasEmptyArgument]
  fun_induction closeCommas list with
  | case1 s ih =>
      have comma : ¬ ',' = ' ' := by decide
      simp only [List.infix_cons_iff, List.cons_prefix_cons, comma_isPrefix_closeCommas_iff, ih,
        comma]
      tauto
  | case2 c s other ih =>
      have tight : ¬ (',' = c ∧ [' ', ','] <+: s) := by
        rintro ⟨rfl, spaced⟩
        obtain ⟨t, rfl⟩ := spaced
        exact other (',' :: t) rfl rfl
      simp only [List.infix_cons_iff, List.cons_prefix_cons, comma_isPrefix_closeCommas_iff, ih,
        tight]
      tauto
  | case3 => simp

theorem hasEmptyArgument_iff_segments {list : Text} :
    HasEmptyArgument list ↔ [] ∈ (segments list).tail.dropLast := by
  obtain ⟨first, rest, split⟩ := Split.exists_splitOn_eq_cons ',' list
  have closed : (closeCommas list).splitOn ',' = first :: rest.map dropSpace := by
    rw [splitOn_closeCommas, segments_eq split]
  rw [← commas_isInfix_closeCommas_iff, commas_isInfix_iff closed, segments_eq split,
    List.tail_cons]

def filled (segs : List Text) : List Text := segs.filter (!·.isEmpty)

@[simp] theorem filled_nil : filled [] = [] := rfl

@[simp] theorem filled_empty_cons (segs : List Text) : filled ([] :: segs) = filled segs := rfl

theorem filled_cons {seg : Text} (nonempty : seg ≠ []) (segs : List Text) :
    filled (seg :: segs) = seg :: filled segs := by
  have kept : (!seg.isEmpty) = true := by simpa using nonempty
  exact List.filter_cons_of_pos kept

theorem mem_filled {seg : Text} {segs : List Text} :
    seg ∈ filled segs ↔ seg ∈ segs ∧ seg ≠ [] := by
  simp [filled]

theorem splitBy_closeCommas (list : Text) :
    splitBy [[',']] (closeCommas list) = filled (segments list) := by
  rw [Split.splitBy_singleton, Split.runs, Split.pieces_beq, splitOn_closeCommas, filled]

theorem readArguments_of_empty {list : Text} (empty : HasEmptyArgument list) :
    readArguments list = pure (.error .emptyArgument) := by
  have found : Text.hasInfix [',', ','] (closeCommas list) = true :=
    hasInfix_iff.mpr ((commas_isInfix_closeCommas_iff list).mpr empty)
  rw [readArguments]
  exact if_pos found

theorem readArguments_of_not_empty {list : Text} (ungapped : ¬ HasEmptyArgument list) :
    readArguments list = readTokens (filled (segments list)) := by
  have absent : ¬ Text.hasInfix [',', ','] (closeCommas list) = true := by
    rwa [hasInfix_iff, commas_isInfix_closeCommas_iff]
  rw [readArguments, ← splitBy_closeCommas]
  exact if_neg absent

theorem readArguments_value_of_empty {list : Text} (empty : HasEmptyArgument list) :
    (readArguments list).value = .error .emptyArgument := by
  rw [readArguments_of_empty empty, Logged.pure_value]

theorem readArguments_value_of_not_empty {list : Text} (ungapped : ¬ HasEmptyArgument list) :
    (readArguments list).value = (readTokens (filled (segments list))).value := by
  rw [readArguments_of_not_empty ungapped]

end MethodSignature.Signature
