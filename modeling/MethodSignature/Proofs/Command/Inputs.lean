import MethodSignature.Command.Parse
import MethodSignature.Proofs.Text.Ascii

/-!
The inputs that are read from a stream. `IsLines` says what the lines of a text are. The stream
is cut at its line feeds before anything is known about its encoding, and each line is checked on
its own; still it gives exactly the lines of the text that it encodes, and nothing where it
encodes none.
-/

namespace MethodSignature

namespace Text

/-- `IsLines s ls`: the lines of `s` are `ls`. A line ends with a line feed, or with a carriage
return and a line feed; the last one may end with the text. -/
inductive IsLines : Text → List Text → Prop
  | nil : IsLines [] []
  | last {l : Text} (nonempty : l ≠ []) (unbroken : '\n' ∉ l) : IsLines l [l]
  | lf {l s : Text} {ls : List Text} (unbroken : '\n' ∉ l) (whole : l.getLast? ≠ some '\r')
      (rest : IsLines s ls) : IsLines (l ++ '\n' :: s) (l :: ls)
  | crlf {l s : Text} {ls : List Text} (unbroken : '\n' ∉ l) (rest : IsLines s ls) :
      IsLines (l ++ '\r' :: '\n' :: s) (l :: ls)

theorem IsLines.cons {c : Char} {s : Text} {ls : List Text} (other : c ≠ '\n')
    (h : IsLines s ls) : ∃ ms, IsLines (c :: s) ms := by
  have longer {l : Text} (unbroken : '\n' ∉ l) : '\n' ∉ c :: l := by
    simp [unbroken, other.symm]
  cases h with
  | nil => exact ⟨[[c]], .last (by simp) (longer List.not_mem_nil)⟩
  | @last l nonempty unbroken => exact ⟨[c :: s], .last (by simp) (longer unbroken)⟩
  | @crlf l s ls unbroken rest => exact ⟨(c :: l) :: ls, .crlf (longer unbroken) rest⟩
  | @lf l s ls unbroken whole rest =>
    cases l with
    | cons d l =>
      have still : (c :: d :: l).getLast? ≠ some '\r' := by
        rwa [List.getLast?_cons_cons]
      exact ⟨(c :: d :: l) :: ls, .lf (longer unbroken) still rest⟩
    | nil =>
      -- a carriage return in front of a line feed joins the line end
      by_cases cr : c = '\r'
      · subst cr
        exact ⟨[] :: ls, .crlf (l := []) unbroken rest⟩
      · exact ⟨[c] :: ls, .lf (longer unbroken) (by simpa using cr) rest⟩

theorem exists_isLines (s : Text) : ∃ ls, IsLines s ls := by
  induction s with
  | nil => exact ⟨[], .nil⟩
  | cons c s ih =>
    obtain ⟨ls, h⟩ := ih
    by_cases lf : c = '\n'
    · subst lf
      exact ⟨[] :: ls, .lf (l := []) List.not_mem_nil (by simp) h⟩
    · exact h.cons lf

def Shows (l : Text) : Prop := ∃ c ∈ l, ¬ isBlankChar c

instance (l : Text) : Decidable (Shows l) :=
  List.decidableBEx (fun c => ¬ isBlankChar c = true) l

theorem not_isBlank_eq_shows (l : Text) : (!isBlank l) = decide (Shows l) := by
  rw [Bool.eq_iff_iff, decide_eq_true_iff]
  simp [isBlank, Shows]

def lineEnds : List Text := [['\n'], ['\r', '\n']]

theorem IsLines.ended {ending l s : Text} {ls : List Text} (ends : ending ∈ lineEnds)
    (unbroken : '\n' ∉ l) (whole : l.getLast? ≠ some '\r') (rest : IsLines s ls) :
    IsLines (l ++ (ending ++ s)) (l :: ls) := by
  simp only [lineEnds, List.mem_cons, List.not_mem_nil, or_false] at ends
  rcases ends with rfl | rfl
  · exact .lf unbroken whole rest
  · exact .crlf unbroken rest

theorem isLines_intercalate {ending final : Text} (ends : ending ∈ lineEnds)
    (ended : final = [] ∨ final = ending) {x : Text} {xs : List Text}
    (clean : ∀ y ∈ x :: xs, y ≠ [] ∧ '\n' ∉ y ∧ y.getLast? ≠ some '\r') :
    IsLines (ending.intercalate (x :: xs) ++ final) (x :: xs) := by
  induction xs generalizing x with
  | nil =>
    obtain ⟨nonempty, unbroken, whole⟩ := clean x List.mem_cons_self
    rw [List.intercalate_singleton]
    rcases ended with rfl | rfl
    · rw [List.append_nil]
      exact .last nonempty unbroken
    · simpa using IsLines.nil.ended ends unbroken whole
  | cons y ys ih =>
    obtain ⟨-, unbroken, whole⟩ := clean x List.mem_cons_self
    have rest := ih fun z later => clean z (List.mem_cons_of_mem x later)
    rw [List.intercalate_cons_cons, List.append_assoc, List.append_assoc]
    exact rest.ended ends unbroken whole

end Text

namespace Command

open Text

theorem flatten_streamLines (b : Bytes) : (streamLines b).flatten = b := by
  induction b with
  | nil => rfl
  | cons x b ih =>
    rw [streamLines]
    split
    · simpa using ih
    · cases lines : streamLines b with
      | nil =>
        rw [lines] at ih
        simp [← ih]
      | cons line later =>
        rw [lines] at ih
        simpa using ih

theorem streamLines_append_lf {a : Bytes} (unbroken : 0x0A ∉ a) (b : Bytes) :
    streamLines (a ++ 0x0A :: b) = (a ++ [0x0A]) :: streamLines b := by
  induction a with
  | nil => simp [streamLines]
  | cons x a ih =>
    rw [List.mem_cons, not_or] at unbroken
    obtain ⟨other, unbroken⟩ := unbroken
    rw [List.cons_append, streamLines, if_neg (Ne.symm other), ih unbroken]
    rfl

theorem streamLines_of_unbroken {a : Bytes} (nonempty : a ≠ []) (unbroken : 0x0A ∉ a) :
    streamLines a = [a] := by
  induction a with
  | nil => exact absurd rfl nonempty
  | cons x a ih =>
    rw [List.mem_cons, not_or] at unbroken
    obtain ⟨other, unbroken⟩ := unbroken
    rw [streamLines, if_neg (Ne.symm other)]
    cases a with
    | nil => rfl
    | cons y a => rw [ih (List.cons_ne_nil y a) unbroken]

theorem dropLineEnd_of_unbroken {l : Text} (unbroken : '\n' ∉ l) : dropLineEnd l = l := by
  have open_ : l.getLast? ≠ some '\n' := fun last => unbroken (List.mem_of_getLast? last)
  rw [dropLineEnd, if_neg open_]

theorem dropLineEnd_lf {l : Text} (whole : l.getLast? ≠ some '\r') :
    dropLineEnd (l ++ ['\n']) = l := by
  simp [dropLineEnd, whole]

theorem dropLineEnd_crlf (l : Text) : dropLineEnd (l ++ ['\r', '\n']) = l := by
  have split : l ++ ['\r', '\n'] = (l ++ ['\r']) ++ ['\n'] := by simp
  rw [split]
  simp [dropLineEnd]

theorem readLines_encode_cons (s : Text) (lines : List Bytes) :
    readLines (encode s :: lines) = (readLines lines).map (dropLineEnd s :: ·) := by
  rw [readLines, decode?_encode]

theorem lf_notMem_encode {l : Text} (unbroken : '\n' ∉ l) : 0x0A ∉ encode l :=
  fun mem => unbroken ((mem_encode_iff (a := '\n') (by decide)).mp mem)

theorem readLines_streamLines {s : Text} {ls : List Text} (h : IsLines s ls) :
    readLines (streamLines (encode s)) = .ok ls := by
  induction h with
  | nil => rfl
  | @last l nonempty unbroken =>
    rw [streamLines_of_unbroken (encode_ne_nil nonempty) (lf_notMem_encode unbroken),
      readLines_encode_cons, dropLineEnd_of_unbroken unbroken]
    rfl
  | @lf l s ls unbroken whole rest ih =>
    have octets : encode (l ++ '\n' :: s) = encode l ++ 0x0A :: encode s := encode_append l _
    have line : encode l ++ [0x0A] = encode (l ++ ['\n']) := (encode_append l ['\n']).symm
    rw [octets, streamLines_append_lf (lf_notMem_encode unbroken), line, readLines_encode_cons,
      ih, dropLineEnd_lf whole]
    rfl
  | @crlf l s ls unbroken rest ih =>
    have octets : encode (l ++ '\r' :: '\n' :: s) = encode (l ++ ['\r']) ++ 0x0A :: encode s := by
      rw [encode_append, encode_append, List.append_assoc]
      rfl
    have line : encode (l ++ ['\r']) ++ [0x0A] = encode (l ++ ['\r', '\n']) := by
      rw [encode_append, encode_append, List.append_assoc]
      rfl
    have unended : '\n' ∉ l ++ ['\r'] := by simp [unbroken]
    rw [octets, streamLines_append_lf (lf_notMem_encode unended), line, readLines_encode_cons,
      ih, dropLineEnd_crlf]
    rfl

theorem readLines_eq_error {lines : List Bytes} {e : StorageError}
    (h : readLines lines = .error e) : e = .notUtf8 := by
  induction lines with
  | nil => cases h
  | cons line lines ih =>
    rw [readLines] at h
    split at h
    · cases h
      rfl
    · cases later : readLines lines with
      | error cause =>
        rw [later] at h
        cases h
        exact ih later
      | ok ls =>
        rw [later] at h
        cases h

theorem exists_flatten_eq_encode {lines : List Bytes} {ls : List Text}
    (h : readLines lines = .ok ls) : ∃ s, lines.flatten = encode s := by
  induction lines generalizing ls with
  | nil => exact ⟨[], rfl⟩
  | cons line lines ih =>
    rw [readLines] at h
    split at h
    · cases h
    · rename_i s decoded
      cases later : readLines lines with
      | error cause =>
        rw [later] at h
        cases h
      | ok ms =>
        obtain ⟨t, rest⟩ := ih later
        refine ⟨s ++ t, ?_⟩
        rw [List.flatten_cons, rest, encode_append, decode?_eq_some_iff.mp decoded]

/-- One line with a bad octet spoils the whole stream, and nothing else does. -/
theorem readLines_streamLines_eq_error_iff {b : Bytes} :
    readLines (streamLines b) = .error .notUtf8 ↔ ∀ s, b ≠ encode s := by
  constructor
  · rintro failed s rfl
    obtain ⟨ls, h⟩ := exists_isLines s
    rw [readLines_streamLines h] at failed
    cases failed
  · intro broken
    cases read : readLines (streamLines b) with
    | error e => rw [readLines_eq_error read]
    | ok ls =>
      obtain ⟨s, whole⟩ := exists_flatten_eq_encode read
      rw [flatten_streamLines] at whole
      exact absurd whole (broken s)

theorem collectInputs_nil (b : Bytes) :
    collectInputs [] b =
      match readLines (streamLines b) with
      | .error cause => .error (.unreadableInput cause)
      | .ok lines => .ok (lines.filter (Shows ·)) := by
  have none : ¬ ([] : List Text) ≠ [] := fun given => given rfl
  rw [collectInputs, if_neg none]
  cases readLines (streamLines b) with
  | error cause => rfl
  | ok lines => simp only [not_isBlank_eq_shows]

theorem collectInputs_encode {s : Text} {ls : List Text} (h : IsLines s ls) :
    collectInputs [] (encode s) = .ok (ls.filter (Shows ·)) := by
  rw [collectInputs_nil, readLines_streamLines h]

theorem collectInputs_nil_eq_error_iff {b : Bytes} :
    collectInputs [] b = .error (.unreadableInput .notUtf8) ↔ ∀ s, b ≠ encode s := by
  rw [← readLines_streamLines_eq_error_iff, collectInputs_nil]
  cases readLines (streamLines b) with
  | error e => simp
  | ok ls => simp

/-- Signatures that are given are the inputs. When none are given, the inputs are the lines of the
stream that show anything, unless the stream is not UTF-8; so the stream may hold any signatures
that are single lines and give the same inputs. -/
theorem collectInputs_eq :
    (∀ signatures stdin, signatures ≠ [] → collectInputs signatures stdin = .ok signatures) ∧
    (∀ stdin, collectInputs [] stdin = .error (.unreadableInput .notUtf8) ↔
      ∀ s, stdin ≠ encode s) ∧
    (∀ s, ∃ ls, IsLines s ls ∧ (∀ ms, IsLines s ms → ms = ls) ∧
      collectInputs [] (encode s) = .ok (ls.filter (Shows ·))) ∧
    (∀ ending ∈ lineEnds, ∀ final, final = [] ∨ final = ending → ∀ xs : List Text,
      (∀ x ∈ xs, Shows x ∧ '\n' ∉ x ∧ x.getLast? ≠ some '\r') →
      collectInputs [] (encode (ending.intercalate xs ++ final)) = .ok xs) := by
  refine ⟨?_, fun stdin => collectInputs_nil_eq_error_iff, ?_, ?_⟩
  · intro signatures stdin given
    rw [collectInputs, if_pos given]
  · intro s
    obtain ⟨ls, h⟩ := exists_isLines s
    refine ⟨ls, h, fun ms other => ?_, collectInputs_encode h⟩
    have same := (readLines_streamLines other).symm.trans (readLines_streamLines h)
    exact Except.ok.inj same
  · intro ending ends final ended xs clean
    cases xs with
    | nil =>
      -- a line end alone is a blank line
      rcases ended with rfl | rfl
      · rfl
      · simp only [lineEnds, List.mem_cons, List.not_mem_nil, or_false] at ends
        rcases ends with rfl | rfl <;> rfl
    | cons x xs =>
      have filled : ∀ y ∈ x :: xs, y ≠ [] ∧ '\n' ∉ y ∧ y.getLast? ≠ some '\r' := by
        intro y mem
        obtain ⟨⟨c, inside, -⟩, unbroken, whole⟩ := clean y mem
        exact ⟨List.ne_nil_of_mem inside, unbroken, whole⟩
      have all : (x :: xs).filter (Shows ·) = x :: xs :=
        List.filter_eq_self.mpr fun y mem => decide_eq_true (clean y mem).1
      rw [collectInputs_encode (isLines_intercalate ends ended filled), all]

theorem collectInputs_crlf :
    (∀ x ∈ [("void f()" : Text), (" int\tg(" : Text)],
      Shows x ∧ '\n' ∉ x ∧ x.getLast? ≠ some '\r') ∧
    collectInputs [] (encode "void f()\r\n int\tg(") = .ok ["void f()", " int\tg("] := by
  have clean : ∀ x ∈ [("void f()" : Text), (" int\tg(" : Text)],
      Shows x ∧ '\n' ∉ x ∧ x.getLast? ≠ some '\r' := by
    decide
  have crlf : ['\r', '\n'] ∈ lineEnds := List.mem_cons_of_mem _ List.mem_cons_self
  exact ⟨clean, collectInputs_eq.2.2.2 _ crlf [] (.inl rfl) _ clean⟩

end Command

end MethodSignature
