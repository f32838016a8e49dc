import MethodSignature.Signature.Parse
import MethodSignature.Proofs.Signature.Arguments
import MethodSignature.Proofs.Signature.Brackets

/-!
The grammar of written signatures, stated without the reader: two or three words, a bracket pair,
and between the brackets arguments with separators between them and perhaps around them. The
reader accepts a text exactly when the grammar derives it, and returns what the grammar says.
-/

namespace MethodSignature.Signature
open Brackets Split

inductive Separator : Text → Prop
  | comma : Separator [',']
  | commaSpace : Separator [',', ' ']

/-- What may follow an argument: more arguments, each after a separator, and a separator at the
end or none. -/
inductive ArgumentTail : Text → List Argument → Prop
  | nil : ArgumentTail [] []
  | separator {sep : Text} (separates : Separator sep) : ArgumentTail sep []
  | cons {sep token rest : Text} {a : Argument} {as : List Argument}
      (separates : Separator sep) (written : WrittenArgument token a)
      (tail : ArgumentTail rest as) : ArgumentTail (sep ++ token ++ rest) (a :: as)

/-- An argument list: nothing, a separator alone, or arguments with separators between them, with
or without one in front and one at the end. -/
inductive ArgumentList : Text → List Argument → Prop
  | empty : ArgumentList [] []
  | separator {sep : Text} (separates : Separator sep) : ArgumentList sep []
  | arguments {lead token rest : Text} {a : Argument} {as : List Argument}
      (leads : lead = [] ∨ Separator lead) (written : WrittenArgument token a)
      (tail : ArgumentTail rest as) : ArgumentList (lead ++ token ++ rest) (a :: as)

theorem WrittenArgument.ne_nil {token : Text} {a : Argument} (written : WrittenArgument token a) :
    token ≠ [] := by
  obtain ⟨n, rfl⟩ := written.text
  simp

theorem WrittenArgument.comma_notMem {token : Text} {a : Argument}
    (written : WrittenArgument token a) : ',' ∉ token := by
  obtain ⟨n, rfl⟩ := written.text
  have typeFree : ',' ∉ a.type := written.type_isWord.2 ',' (by simp)
  have nameFree : ',' ∉ a.name := written.name_isWord.2 ',' (by simp)
  simp [typeFree, nameFree]

theorem WrittenArgument.head?_ne {token : Text} {a : Argument}
    (written : WrittenArgument token a) : token.head? ≠ some ' ' := by
  obtain ⟨n, rfl⟩ := written.text
  obtain ⟨c, type, typed⟩ := List.exists_cons_of_ne_nil written.type_isWord.1
  have free : ' ' ∉ a.type := written.type_isWord.2 ' ' (by simp)
  rw [typed, List.mem_cons, not_or] at free
  simpa [typed] using Ne.symm free.1

theorem exists_separator_append_dropSpace (raw : Text) :
    ∃ sep, Separator sep ∧ ',' :: raw = sep ++ dropSpace raw := by
  unfold dropSpace
  split
  · exact ⟨_, .commaSpace, rfl⟩
  · exact ⟨_, .comma, rfl⟩

theorem Separator.exists_raw {sep seg : Text} (separates : Separator sep)
    (tight : seg.head? ≠ some ' ') :
    ∃ raw, sep ++ seg = ',' :: raw ∧ dropSpace raw = seg ∧ (',' ∉ seg → ',' ∉ raw) := by
  cases separates with
  | comma => exact ⟨seg, rfl, dropSpace_eq_self tight, id⟩
  | commaSpace => exact ⟨' ' :: seg, rfl, rfl, fun free => by simpa using free⟩

/-- The raw segments behind the first one, when none but the last is empty and the others are
written arguments, are a tail. -/
theorem argumentTail_of_segments {rest : List Text} {as : List Argument}
    (ungapped : [] ∉ (rest.map dropSpace).dropLast)
    (written : List.Forall₂ WrittenArgument (filled (rest.map dropSpace)) as) :
    ArgumentTail (rest.flatMap (',' :: ·)) as := by
  -- Along the raw segments: an empty one has to be the last, any other one is an argument.
  induction rest generalizing as with
  | nil =>
      obtain rfl := List.forall₂_nil_left_iff.mp written
      exact .nil
  | cons raw rest ih =>
      obtain ⟨sep, separates, split⟩ := exists_separator_append_dropSpace raw
      rw [List.flatMap_cons, split]
      by_cases empty : dropSpace raw = []
      · have last : rest = [] := by
          by_contra more
          obtain ⟨next, others, rfl⟩ := List.exists_cons_of_ne_nil more
          simp [empty] at ungapped
        subst last
        obtain rfl : as = [] := by simpa [empty] using written
        simpa [empty] using ArgumentTail.separator separates
      · rw [List.map_cons, filled_cons empty, List.forall₂_cons_left_iff] at written
        obtain ⟨a, others, first, later, rfl⟩ := written
        refine .cons separates first (ih ?_ later)
        intro gap
        cases rest with
        | nil => simp at gap
        | cons next rest => exact ungapped (List.mem_cons_of_mem _ gap)

theorem ArgumentTail.exists_segments {text : Text} {as : List Argument}
    (tail : ArgumentTail text as) :
    ∃ rest : List Text, (∀ raw ∈ rest, ',' ∉ raw) ∧ text = rest.flatMap (',' :: ·) ∧
      [] ∉ (rest.map dropSpace).dropLast ∧
      List.Forall₂ WrittenArgument (filled (rest.map dropSpace)) as := by
  induction tail with
  | nil => exact ⟨[], by simp, rfl, by simp, .nil⟩
  | separator separates =>
      obtain ⟨raw, split, empty, free⟩ := @Separator.exists_raw _ [] separates (by simp)
      refine ⟨[raw], by simpa using free, by simpa using split, by simp, ?_⟩
      simp [empty]
  | @cons sep token rest a as separates written _ ih =>
      obtain ⟨others, clean, rfl, ungapped, later⟩ := ih
      obtain ⟨raw, split, same, free⟩ := separates.exists_raw written.head?_ne
      have free := free written.comma_notMem
      refine ⟨raw :: others, List.forall_mem_cons.mpr ⟨free, clean⟩, ?_, ?_, ?_⟩
      · rw [split, List.flatMap_cons]
      · cases others with
        | nil => simp
        | cons next others =>
            rw [List.map_cons, same, List.map_cons, List.dropLast_cons_cons]
            rintro (_ | ⟨_, gap⟩)
            · exact written.ne_nil rfl
            · exact ungapped gap
      · rw [List.map_cons, same, filled_cons written.ne_nil]
        exact .cons written later

theorem argumentList_iff_tail {list : Text} {args : List Argument} :
    ArgumentList list args ↔ ArgumentTail list args ∨
      ∃ token rest a as, list = token ++ rest ∧ args = a :: as ∧
        WrittenArgument token a ∧ ArgumentTail rest as := by
  constructor
  · rintro (_ | separates | ⟨rfl | separates, written, tail⟩)
    · exact .inl .nil
    · exact .inl (.separator separates)
    · exact .inr ⟨_, _, _, _, rfl, rfl, written, tail⟩
    · exact .inl (.cons separates written tail)
  · rintro (tail | ⟨token, rest, a, as, rfl, rfl, written, tail⟩)
    · cases tail with
      | nil => exact .empty
      | separator separates => exact .separator separates
      | cons separates written tail => exact .arguments (.inr separates) written tail
    · exact @ArgumentList.arguments [] token rest a as (.inl rfl) written tail

theorem ArgumentTail.segments_append {first text : Text} {as : List Argument}
    (free : ',' ∉ first) (tail : ArgumentTail text as) :
    ∃ rest, segments (first ++ text) = first :: rest ∧ [] ∉ rest.dropLast ∧
      List.Forall₂ WrittenArgument (filled rest) as := by
  obtain ⟨rest, clean, rfl, ungapped, written⟩ := tail.exists_segments
  refine ⟨rest.map dropSpace, segments_eq ?_, ungapped, written⟩
  exact splitOn_eq_cons_iff.mpr ⟨List.forall_mem_cons.mpr ⟨free, clean⟩, rfl⟩

theorem argumentList_iff_segments {list : Text} {args : List Argument} :
    ArgumentList list args ↔
      ¬ HasEmptyArgument list ∧ List.Forall₂ WrittenArgument (filled (segments list)) args := by
  rw [argumentList_iff_tail, hasEmptyArgument_iff_segments]
  constructor
  · rintro (tail | ⟨token, text, a, as, rfl, rfl, first, tail⟩)
    · obtain ⟨rest, segs, ungapped, written⟩ := tail.segments_append List.not_mem_nil
      rw [List.nil_append] at segs
      rw [segs]
      exact ⟨ungapped, written⟩
    · obtain ⟨rest, segs, ungapped, written⟩ := tail.segments_append first.comma_notMem
      rw [segs, filled_cons first.ne_nil]
      exact ⟨ungapped, .cons first written⟩
  · rintro ⟨ungapped, written⟩
    obtain ⟨first, rest, split⟩ := exists_splitOn_eq_cons ',' list
    obtain ⟨-, text⟩ := splitOn_eq_cons_iff.mp split
    rw [segments_eq split, List.tail_cons] at ungapped
    rw [segments_eq split] at written
    by_cases empty : first = []
    · subst empty
      exact .inl (text ▸ argumentTail_of_segments ungapped written)
    · rw [filled_cons empty, List.forall₂_cons_left_iff] at written
      obtain ⟨a, as, start, later, rfl⟩ := written
      exact .inr ⟨first, _, a, as, text, rfl, start, argumentTail_of_segments ungapped later⟩

theorem readArguments_value_eq_ok_iff {list : Text} {args : List Argument} :
    (readArguments list).value = .ok args ↔ ArgumentList list args := by
  rw [argumentList_iff_segments]
  by_cases empty : HasEmptyArgument list
  · simp [readArguments_value_of_empty empty, empty]
  · rw [readArguments_value_of_not_empty empty, readTokens_value_eq_ok_iff_written]
    · simp [empty]
    · intro token mem
      exact notMem_of_mem_segments (mem_filled.mp mem).1

def Head.words (head : Head) : List Text := head.modifier.toList ++ [head.returnType, head.name]

def head (sig : Signature) : Head := ⟨sig.modifier, sig.returnType, sig.name⟩

@[simp] theorem ofHead_head_arguments (sig : Signature) : ofHead sig.head sig.arguments = sig := rfl

theorem readHead_eq_ok_iff {before : Text} {head : Head} :
    readHead before = .ok head ↔ IsRuns (· == ' ') before head.words := by
  rw [← runs_eq_iff, ← splitBy_singleton, readHead]
  obtain ⟨modifier, returnType, name⟩ := head
  split
  · rename_i words
    rw [words]
    cases modifier <;> simp [Head.words]
  · rename_i words
    rw [words]
    cases modifier <;> simp [Head.words]
  · rename_i two three
    constructor
    · intro failed
      nomatch failed
    · intro words
      cases modifier with
      | none => exact absurd words (two returnType name)
      | some modifier => exact absurd words (three modifier returnType name)

theorem parse?_of_unpaired {s : Text} (unpaired : Unpaired s) :
    parse? s = .error .noBracketPair := by
  rw [parse?, parse_value, read, locate?_eq_none_iff.mpr unpaired]
  rfl

theorem read_of_cut {s before between after : Text} (cut : Cut s before between after) :
    read s = match readHead before with
      | .error fault => pure (.error fault)
      | .ok head => ⟨(readArguments between).value.map (ofHead head),
          (readArguments between).events⟩ := by
  cases first : readHead before with
  | error fault => simp only [read, cut.locate?, cut.before_eq, first]
  | ok head => simp only [read, cut.locate?, cut.before_eq, cut.between_eq, first]

theorem parse?_of_cut {s before between after : Text} (cut : Cut s before between after) :
    parse? s = (readHead before).bind fun head =>
      (readArguments between).value.map (ofHead head) := by
  rw [parse?, parse_value, read_of_cut cut]
  cases readHead before <;> rfl

theorem parse?_eq_ok_iff {s : Text} {sig : Signature} :
    parse? s = .ok sig ↔ ∃ before between after, Cut s before between after ∧
      readHead before = .ok sig.head ∧ (readArguments between).value = .ok sig.arguments := by
  constructor
  · intro accepted
    have paired : ¬ Unpaired s := by
      intro unpaired
      rw [parse?_of_unpaired unpaired] at accepted
      nomatch accepted
    obtain ⟨before, between, after, cut⟩ := exists_cut_of_not_unpaired paired
    refine ⟨before, between, after, cut, ?_⟩
    rw [parse?_of_cut cut] at accepted
    cases first : readHead before with
    | error fault => simp [first, Except.bind] at accepted
    | ok head =>
        cases second : (readArguments between).value with
        | error fault => simp [first, second, Except.bind, Except.map] at accepted
        | ok arguments =>
            obtain rfl : ofHead head arguments = sig := by
              simpa [first, second, Except.bind, Except.map] using accepted
            exact ⟨rfl, rfl⟩
  · rintro ⟨before, between, after, cut, first, second⟩
    simp [parse?_of_cut cut, first, second, Except.bind, Except.map]

/-- Reading accepts exactly the written signatures, with the value that the grammar gives. -/
theorem parse?_eq_ok_iff_grammar (s : Text) (sig : Signature) :
    parse? s = .ok sig ↔ ∃ before between after, Cut s before between after ∧
      IsRuns (· == ' ') before sig.head.words ∧ ArgumentList between sig.arguments := by
  simp only [parse?_eq_ok_iff, readHead_eq_ok_iff, readArguments_value_eq_ok_iff]

end MethodSignature.Signature
