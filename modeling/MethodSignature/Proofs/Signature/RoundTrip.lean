import MethodSignature.Proofs.Signature.Grammar

/-!
Writing a signature and reading it again. `WellFormed` says which signatures come back as they
were; every signature that reading returns is one of them, however irregular the text it was read
from.
-/

namespace MethodSignature

structure Argument.WellFormed (a : Argument) : Prop where
  type : Signature.IsWord [' ', ',', ')'] a.type
  name : Signature.IsWord [' ', ',', ')'] a.name

instance (a : Argument) : Decidable a.WellFormed :=
  decidable_of_iff
    (Signature.IsWord [' ', ',', ')'] a.type ∧ Signature.IsWord [' ', ',', ')'] a.name)
    ⟨fun h => ⟨h.1, h.2⟩, fun h => ⟨h.type, h.name⟩⟩

namespace Signature
open Brackets Split

/-- No part of the signature holds a character that reading would take for something else. -/
structure WellFormed (sig : Signature) : Prop where
  modifier : ∀ m ∈ sig.modifier, IsWord [' ', '(', ')'] m
  returnType : IsWord [' ', '(', ')'] sig.returnType
  name : IsWord [' ', '(', ')'] sig.name
  arguments : ∀ a ∈ sig.arguments, a.WellFormed

instance (sig : Signature) : Decidable sig.WellFormed :=
  decidable_of_iff ((∀ m ∈ sig.modifier, IsWord [' ', '(', ')'] m) ∧
      IsWord [' ', '(', ')'] sig.returnType ∧ IsWord [' ', '(', ')'] sig.name ∧
      ∀ a ∈ sig.arguments, a.WellFormed)
    ⟨fun h => ⟨h.1, h.2.1, h.2.2.1, h.2.2.2⟩,
      fun h => ⟨h.modifier, h.returnType, h.name, h.arguments⟩⟩

theorem isWord_concat_iff {barred : List Char} {c : Char} {w : Text} :
    IsWord (barred ++ [c]) w ↔ IsWord barred w ∧ c ∉ w := by
  simp only [IsWord, List.mem_append, List.mem_singleton, or_imp, forall_and, forall_eq, and_assoc]

theorem forall_mem_words_iff {sig : Signature} {P : Text → Prop} :
    (∀ w ∈ sig.head.words, P w) ↔
      (∀ m ∈ sig.modifier, P m) ∧ P sig.returnType ∧ P sig.name := by
  simp [Head.words, Signature.head, or_imp, forall_and]

theorem WrittenArgument.wellFormed_iff {token : Text} {a : Argument}
    (written : WrittenArgument token a) : a.WellFormed ↔ ')' ∉ a.type ∧ ')' ∉ a.name := by
  constructor
  · rintro ⟨type, name⟩
    exact ⟨type.2 ')' (by simp), name.2 ')' (by simp)⟩
  · rintro ⟨typeFree, nameFree⟩
    exact ⟨isWord_concat_iff.mpr ⟨written.type_isWord, typeFree⟩,
      isWord_concat_iff.mpr ⟨written.name_isWord, nameFree⟩⟩

theorem ArgumentTail.mem_written {text : Text} {as : List Argument} {a : Argument}
    (tail : ArgumentTail text as) (mem : a ∈ as) :
    ∃ token, WrittenArgument token a ∧ ∀ c ∈ token, c ∈ text := by
  induction tail with
  | nil => simp at mem
  | separator => simp at mem
  | cons _ written _ ih =>
      rcases List.mem_cons.mp mem with rfl | later
      · exact ⟨_, written, fun c here => by simp [here]⟩
      · obtain ⟨token, form, inside⟩ := ih later
        exact ⟨token, form, fun c here => by simp [inside c here]⟩

theorem ArgumentList.mem_written {list : Text} {args : List Argument} {a : Argument}
    (derived : ArgumentList list args) (mem : a ∈ args) :
    ∃ token, WrittenArgument token a ∧ ∀ c ∈ token, c ∈ list := by
  rcases argumentList_iff_tail.mp derived with
    tail | ⟨token, rest, first, as, rfl, rfl, written, tail⟩
  · exact tail.mem_written mem
  · rcases List.mem_cons.mp mem with rfl | later
    · exact ⟨token, written, fun c here => by simp [here]⟩
    · obtain ⟨other, form, inside⟩ := tail.mem_written later
      exact ⟨other, form, fun c here => by simp [inside c here]⟩

theorem ArgumentList.wellFormed {list : Text} {args : List Argument}
    (derived : ArgumentList list args) (unclosed : ')' ∉ list) : ∀ a ∈ args, a.WellFormed := by
  intro a mem
  obtain ⟨token, written, inside⟩ := derived.mem_written mem
  obtain ⟨n, text⟩ := written.text
  have typeFree : ')' ∉ a.type := fun here => unclosed (inside _ (by simp [text, here]))
  have nameFree : ')' ∉ a.name := fun here => unclosed (inside _ (by simp [text, here]))
  exact written.wellFormed_iff.mpr ⟨typeFree, nameFree⟩

theorem isWord_of_isRuns {before : Text} {ws : List Text} (runs : IsRuns (· == ' ') before ws)
    (unopened : '(' ∉ before) (unclosed : ')' ∉ before) :
    ∀ w ∈ ws, IsWord [' ', '(', ')'] w := by
  intro w mem
  obtain ⟨nonempty, uncut, inside⟩ := runs.of_mem mem
  have spaceFree : ' ' ∉ w := fun here => by simpa using uncut ' ' here
  have openingFree : '(' ∉ w := fun here => unopened (inside '(' here)
  have closingFree : ')' ∉ w := fun here => unclosed (inside ')' here)
  exact ⟨nonempty, by simp [spaceFree, openingFree, closingFree]⟩

theorem wellFormed_of_parse? {s : Text} {sig : Signature} (accepted : parse? s = .ok sig) :
    sig.WellFormed := by
  obtain ⟨before, between, after, cut, head, args⟩ := parse?_eq_ok_iff.mp accepted
  have words := isWord_of_isRuns (readHead_eq_ok_iff.mp head) cut.opening_notMem
    cut.closing_notMem_before
  obtain ⟨modifier, returnType, name⟩ := forall_mem_words_iff.mp words
  have derived := readArguments_value_eq_ok_iff.mp args
  exact ⟨modifier, returnType, name, derived.wellFormed cut.closing_notMem_between⟩

theorem WellFormed.words {sig : Signature} (wellFormed : sig.WellFormed) :
    ∀ w ∈ sig.head.words, IsWord [' ', '(', ')'] w :=
  forall_mem_words_iff.mpr ⟨wellFormed.modifier, wellFormed.returnType, wellFormed.name⟩

theorem renderHead_eq_intercalate (sig : Signature) :
    sig.renderHead = [' '].intercalate sig.head.words := by
  obtain ⟨modifier, returnType, name, arguments⟩ := sig
  cases modifier <;> simp [renderHead, Head.words, Signature.head]

theorem writtenArgument_render {a : Argument} (wellFormed : a.WellFormed) :
    WrittenArgument a.render a := by
  have type := (@isWord_concat_iff [' ', ','] ')' a.type).mp wellFormed.type
  have name := (@isWord_concat_iff [' ', ','] ')' a.name).mp wellFormed.name
  exact ⟨type.1, name.1, 0, by simp [Argument.render]⟩

theorem argumentTail_render {as : List Argument} (wellFormed : ∀ a ∈ as, a.WellFormed) :
    ArgumentTail ((as.map Argument.render).flatMap ([',', ' '] ++ ·)) as := by
  induction as with
  | nil => exact .nil
  | cons a as ih =>
      obtain ⟨first, others⟩ := List.forall_mem_cons.mp wellFormed
      rw [List.map_cons, List.flatMap_cons]
      exact .cons .commaSpace (writtenArgument_render first) (ih others)

theorem argumentList_render {args : List Argument} (wellFormed : ∀ a ∈ args, a.WellFormed) :
    ArgumentList (List.intercalate [',', ' '] (args.map Argument.render)) args := by
  cases args with
  | nil => exact .empty
  | cons a as =>
      obtain ⟨first, others⟩ := List.forall_mem_cons.mp wellFormed
      rw [List.map_cons, intercalate_cons_eq_flatMap, argumentList_iff_tail]
      exact .inr ⟨_, _, a, as, rfl, rfl, writtenArgument_render first, argumentTail_render others⟩

theorem bracket_notMem_renderHead {sig : Signature} (wellFormed : sig.WellFormed) {c : Char}
    (bracket : c ∈ ['(', ')']) : c ∉ sig.renderHead := by
  rw [renderHead_eq_intercalate]
  intro mem
  rcases mem_of_mem_intercalate mem with space | ⟨w, word, inside⟩
  · rw [List.mem_singleton.mp space] at bracket
    simp at bracket
  · exact (wellFormed.words w word).2 c (List.mem_cons_of_mem ' ' bracket) inside

theorem closing_notMem_render {args : List Argument} (wellFormed : ∀ a ∈ args, a.WellFormed) :
    ')' ∉ List.intercalate [',', ' '] (args.map Argument.render) := by
  intro mem
  rcases mem_of_mem_intercalate mem with separator | ⟨w, word, inside⟩
  · simp at separator
  · obtain ⟨a, arg, rfl⟩ := List.mem_map.mp word
    obtain ⟨typeFree, nameFree⟩ :=
      (writtenArgument_render (wellFormed a arg)).wellFormed_iff.mp (wellFormed a arg)
    simp [Argument.render, typeFree, nameFree] at inside

theorem parse?_render_of_wellFormed {sig : Signature} (wellFormed : sig.WellFormed) :
    parse? sig.render = .ok sig := by
  have cut : Cut sig.render sig.renderHead
      (List.intercalate [',', ' '] (sig.arguments.map Argument.render)) [] :=
    ⟨rfl, bracket_notMem_renderHead wellFormed (by simp),
      bracket_notMem_renderHead wellFormed (by simp), closing_notMem_render wellFormed.arguments⟩
  refine parse?_eq_ok_iff.mpr ⟨_, _, _, cut, ?_, ?_⟩
  · rw [readHead_eq_ok_iff, renderHead_eq_intercalate]
    refine isRuns_intercalate (by simp) fun w mem => ?_
    obtain ⟨nonempty, clean⟩ := wellFormed.words w mem
    have spaceFree : ' ' ∉ w := clean ' ' (by simp)
    exact ⟨nonempty, fun c here => by simpa using ne_of_mem_of_not_mem here spaceFree⟩
  · exact readArguments_value_eq_ok_iff.mpr (argumentList_render wellFormed.arguments)

/-- What reading returned is read again from its written form, whatever the text was. -/
theorem parse?_render_of_parse? {s : Text} {sig : Signature} (accepted : parse? s = .ok sig) :
    parse? sig.render = .ok sig :=
  parse?_render_of_wellFormed (wellFormed_of_parse? accepted)

theorem parse?_render_of_irregular :
    parse? " a,b  Map\tx größe(,List(E k,int[] n  , ) throws (" =
        .ok ⟨some "a,b", "Map\tx", "größe", [⟨"List(E", "k"⟩, ⟨"int[]", "n"⟩]⟩ ∧
      parse? (render ⟨some "a,b", "Map\tx", "größe", [⟨"List(E", "k"⟩, ⟨"int[]", "n"⟩]⟩) =
        .ok ⟨some "a,b", "Map\tx", "größe", [⟨"List(E", "k"⟩, ⟨"int[]", "n"⟩]⟩ :=
  ⟨rfl, parse?_render_of_parse? (s := " a,b  Map\tx größe(,List(E k,int[] n  , ) throws (") rfl⟩

/-- A signature is read again from its written form exactly when it is well formed. -/
theorem parse?_render_eq_ok_iff (sig : Signature) : parse? sig.render = .ok sig ↔ sig.WellFormed :=
  ⟨wellFormed_of_parse?, parse?_render_of_wellFormed⟩

example : WellFormed ⟨none, "a,b", "f", [⟨"List(E", "x"⟩]⟩ := by decide
example : ¬ WellFormed ⟨none, "a,b", "f(", [⟨"List(E", "x"⟩]⟩ := by decide

end Signature

end MethodSignature
