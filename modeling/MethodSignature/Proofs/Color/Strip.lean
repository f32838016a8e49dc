import MethodSignature.Color.Basic
import MethodSignature.Proofs.Text.Ascii

/-!
Deleting what painting puts in. A sequence is told from others by its mark, the escape character,
which stands in it only at the front; so a sequence put into a text never joins with a broken one
before it, and deleting all sequences gives the same for painted text as for the text itself.
-/

namespace MethodSignature.Color

section

variable {α : Type}

/-- Each sequence starts with the mark, has it nowhere else, and is not the start of another. -/
structure Marked (mark : α) (sequences : List (List α)) : Prop where
  head : ∀ q ∈ sequences, q.head? = some mark
  once : ∀ q ∈ sequences, mark ∉ q.tail
  apart : ∀ p ∈ sequences, ∀ q ∈ sequences, p <+: q → p = q

theorem Marked.exists_eq_cons {mark : α} {sequences : List (List α)}
    (marked : Marked mark sequences) {q : List α} (mem : q ∈ sequences) :
    ∃ rest, q = mark :: rest ∧ mark ∉ rest := by
  have head := marked.head q mem
  have once := marked.once q mem
  cases q with
  | nil => simp at head
  | cons c rest =>
    have same : c = mark := by simpa using head
    exact ⟨rest, by rw [same], once⟩

variable [DecidableEq α]

def strip (sequences : List (List α)) : List α → List α
  | [] => []
  | c :: s =>
      match sequences.find? (·.isPrefixOf (c :: s)) with
      | some found => strip sequences (s.drop (found.length - 1))
      | none => c :: strip sequences s
termination_by s => s.length
decreasing_by
  · simp only [List.length_drop, List.length_cons]
    omega
  · simp

@[simp] theorem strip_nil (sequences : List (List α)) : strip sequences [] = [] := by
  rw [strip]

variable {mark : α} {sequences : List (List α)}

theorem strip_cons {c : α} {s : List α} (kept : ∀ q ∈ sequences, ¬ q <+: c :: s) :
    strip sequences (c :: s) = c :: strip sequences s := by
  have missing : sequences.find? (·.isPrefixOf (c :: s)) = none := by
    rw [List.find?_eq_none]
    intro q mem
    simpa using kept q mem
  rw [strip, missing]

namespace Marked

theorem strip_append (marked : Marked mark sequences) {q : List α} (mem : q ∈ sequences)
    (s : List α) : strip sequences (q ++ s) = strip sequences s := by
  have itself : q <+: q ++ s := List.prefix_append q s
  have found : sequences.find? (·.isPrefixOf (q ++ s)) = some q := by
    cases search : sequences.find? (·.isPrefixOf (q ++ s)) with
    | none =>
      have missed := List.find?_eq_none.mp search q mem
      simp at missed
    | some p =>
      have first : p ∈ sequences := List.mem_of_find?_eq_some search
      have starts : p <+: q ++ s := by simpa using List.find?_some search
      rcases List.prefix_or_prefix_of_prefix starts itself with before | after
      · rw [marked.apart p first q mem before]
      · rw [marked.apart q mem p first after]
  obtain ⟨rest, rfl, -⟩ := marked.exists_eq_cons mem
  rw [List.cons_append] at found ⊢
  rw [strip, found]
  simp

theorem induction (marked : Marked mark sequences) {motive : List α → Prop} (nil : motive [])
    (sequence : ∀ q ∈ sequences, ∀ s, motive s → motive (q ++ s))
    (cons : ∀ c s, (∀ q ∈ sequences, ¬ q <+: c :: s) → motive s → motive (c :: s)) :
    ∀ s, motive s := by
  intro s
  induction size : s.length using Nat.strongRecOn generalizing s with
  | ind n ih =>
    by_cases starts : ∃ q ∈ sequences, q <+: s
    · obtain ⟨q, mem, t, rfl⟩ := starts
      obtain ⟨rest, same, -⟩ := marked.exists_eq_cons mem
      have shorter : t.length < n := by
        rw [← size, same, List.length_append, List.length_cons]
        omega
      exact sequence q mem t (ih t.length shorter t rfl)
    · cases s with
      | nil => exact nil
      | cons c s =>
        have shorter : s.length < n := by
          rw [← size, List.length_cons]
          omega
        exact cons c s (fun q mem here => starts ⟨q, mem, here⟩) (ih s.length shorter s rfl)

theorem strip_cons_of_ne (marked : Marked mark sequences) {c : α} (other : c ≠ mark)
    (s : List α) : strip sequences (c :: s) = c :: strip sequences s := by
  apply strip_cons
  intro q mem starts
  obtain ⟨rest, rfl, -⟩ := marked.exists_eq_cons mem
  exact other (List.cons_prefix_cons.mp starts).1.symm

theorem strip_append_of_notMem (marked : Marked mark sequences) {a : List α}
    (clean : mark ∉ a) (s : List α) : strip sequences (a ++ s) = a ++ strip sequences s := by
  induction a with
  | nil => rfl
  | cons c a ih =>
    rw [List.mem_cons, not_or] at clean
    rw [List.cons_append, marked.strip_cons_of_ne (Ne.symm clean.1), ih clean.2,
      List.cons_append]

theorem strip_of_notMem (marked : Marked mark sequences) {s : List α} (clean : mark ∉ s) :
    strip sequences s = s := by
  have whole := marked.strip_append_of_notMem clean []
  rwa [List.append_nil, strip_nil, List.append_nil] at whole

/-- No sequence reaches across a character that it could have only at its front. -/
theorem strip_append_cons (marked : Marked mark sequences) {x : α}
    (breaks : ∀ q ∈ sequences, x ∉ q.tail) (u v : List α) :
    strip sequences (u ++ x :: v) = strip sequences u ++ strip sequences (x :: v) := by
  induction u using marked.induction with
  | nil => rw [strip_nil, List.nil_append, List.nil_append]
  | sequence q mem u ih =>
    rw [List.append_assoc, marked.strip_append mem, marked.strip_append mem, ih]
  | cons c u kept ih =>
    have still : ∀ q ∈ sequences, ¬ q <+: c :: (u ++ x :: v) := by
      intro q mem starts
      have front : c :: u <+: (c :: u) ++ x :: v := List.prefix_append _ _
      rcases List.prefix_or_prefix_of_prefix starts front with inside | ⟨w, across⟩
      · exact kept q mem inside
      · subst across
        cases w with
        | nil =>
          rw [List.append_nil] at mem
          exact kept _ mem List.prefix_rfl
        | cons y w =>
          have same : y = x :=
            (List.cons_prefix_cons.mp ((List.prefix_append_right_inj (c :: u)).mp starts)).1
          apply breaks _ mem
          simp [same]
    rw [List.cons_append, strip_cons still, strip_cons kept, ih, List.cons_append]

theorem strip_append_of_ended (marked : Marked mark sequences) {x : α}
    (breaks : ∀ q ∈ sequences, x ∉ q) {u : List α} (ended : u = [] ∨ u.getLast? = some x)
    (v : List α) : strip sequences (u ++ v) = strip sequences u ++ strip sequences v := by
  have inside : ∀ q ∈ sequences, x ∉ q.tail :=
    fun q mem later => breaks q mem (List.mem_of_mem_tail later)
  have alone (t : List α) : strip sequences (x :: t) = x :: strip sequences t := by
    apply strip_cons
    intro q mem starts
    obtain ⟨rest, rfl, -⟩ := marked.exists_eq_cons mem
    have same : mark = x := (List.cons_prefix_cons.mp starts).1
    exact breaks _ mem (same ▸ List.mem_cons_self)
  rcases ended with rfl | last
  · rw [strip_nil, List.nil_append, List.nil_append]
  · obtain ⟨front, rfl⟩ := List.getLast?_eq_some_iff.mp last
    rw [List.append_assoc, List.singleton_append, marked.strip_append_cons inside,
      marked.strip_append_cons inside, alone, alone, strip_nil, List.append_assoc,
      List.singleton_append]

/-- Pieces that end with a character that no sequence has are stripped one by one. -/
theorem strip_flatten (marked : Marked mark sequences) {x : α}
    (breaks : ∀ q ∈ sequences, x ∉ q) {pieces : List (List α)}
    (ended : ∀ p ∈ pieces, p = [] ∨ p.getLast? = some x) :
    strip sequences pieces.flatten = (pieces.map (strip sequences)).flatten := by
  induction pieces with
  | nil => rw [List.flatten_nil, strip_nil, List.map_nil, List.flatten_nil]
  | cons p pieces ih =>
    have first := ended p List.mem_cons_self
    have rest := ih fun q later => ended q (List.mem_cons_of_mem p later)
    rw [List.flatten_cons, marked.strip_append_of_ended breaks first, rest, List.map_cons,
      List.flatten_cons]

end Marked

end

def sequences : List Text :=
  ["\x1b[32m", "\x1b[31m", "\x1b[1;34m", "\x1b[2m", "\x1b[0m"]

theorem marked_sequences : Marked '\x1b' sequences where
  head := by decide
  once := by decide
  apart := by decide

theorem Style.opening_mem (style : Style) : style.opening ∈ sequences := by
  cases style <;> decide

theorem reset_mem : reset ∈ sequences := by
  decide

theorem reopen_reset_append (opening s : Text) :
    reopen opening (reset ++ s) = reset ++ opening ++ reopen opening s := rfl

theorem reopen_cons {c : Char} {s : Text} (kept : ¬ reset <+: c :: s) (opening : Text) :
    reopen opening (c :: s) = c :: reopen opening s := by
  rw [reopen]
  intro t first later
  subst first later
  exact kept ⟨t, rfl⟩

theorem reopen_append_of_notMem {a : Text} (clean : '\x1b' ∉ a) (opening s : Text) :
    reopen opening (a ++ s) = a ++ reopen opening s := by
  induction a with
  | nil => rfl
  | cons c a ih =>
    rw [List.mem_cons, not_or] at clean
    have kept : ¬ reset <+: c :: (a ++ s) :=
      fun starts => clean.1 (List.cons_prefix_cons.mp starts).1
    rw [List.cons_append, reopen_cons kept, ih clean.2, List.cons_append]

theorem isPrefix_of_isPrefix_reopen {k opening s : Text} (clean : '\x1b' ∉ k)
    (starts : k <+: reopen opening s) : k <+: s := by
  fun_induction reopen opening s generalizing k with
  | case1 s ih =>
    cases k with
    | nil => exact List.nil_prefix
    | cons d k =>
      have escape : d = '\x1b' := (List.cons_prefix_cons.mp starts).1
      exact absurd (escape ▸ List.mem_cons_self) clean
  | case2 c s other ih =>
    cases k with
    | nil => exact List.nil_prefix
    | cons d k =>
      obtain ⟨rfl, later⟩ := List.cons_prefix_cons.mp starts
      rw [List.mem_cons, not_or] at clean
      exact List.cons_prefix_cons.mpr ⟨rfl, ih clean.2 later⟩
  | case3 => exact starts

theorem strip_reopen (style : Style) (s : Text) :
    strip sequences (reopen style.opening s) = strip sequences s := by
  have opened := style.opening_mem
  induction s using marked_sequences.induction with
  | nil => rfl
  | sequence q mem s ih =>
    by_cases same : q = reset
    · rw [same, reopen_reset_append, List.append_assoc, marked_sequences.strip_append reset_mem,
        marked_sequences.strip_append opened, marked_sequences.strip_append reset_mem, ih]
    · have kept : ¬ reset <+: q ++ s := by
        intro starts
        rcases List.prefix_or_prefix_of_prefix starts (List.prefix_append q s) with rq | qr
        · exact same (marked_sequences.apart _ reset_mem _ mem rq).symm
        · exact same (marked_sequences.apart _ mem _ reset_mem qr)
      have through : reopen style.opening (q ++ s) = q ++ reopen style.opening s := by
        obtain ⟨rest, rfl, clean⟩ := marked_sequences.exists_eq_cons mem
        rw [List.cons_append] at kept ⊢
        rw [reopen_cons kept, reopen_append_of_notMem clean, List.cons_append]
      rw [through, marked_sequences.strip_append mem, marked_sequences.strip_append mem, ih]
  | cons c s kept ih =>
    have still : ∀ q ∈ sequences, ¬ q <+: c :: reopen style.opening s := by
      intro q mem starts
      obtain ⟨rest, same, clean⟩ := marked_sequences.exists_eq_cons mem
      rw [same] at starts
      obtain ⟨first, later⟩ := List.cons_prefix_cons.mp starts
      have inside := List.cons_prefix_cons.mpr ⟨first, isPrefix_of_isPrefix_reopen clean later⟩
      exact kept q mem (same ▸ inside)
    rw [reopen_cons (kept reset reset_mem), strip_cons still, strip_cons kept, ih]

/-- What follows painted text must not complete a sequence that the text breaks off. -/
theorem strip_apply_append (style : Style) (on : Bool) {x : Char}
    (breaks : ∀ q ∈ sequences, x ∉ q.tail) (s t : Text) :
    strip sequences (style.apply on s ++ x :: t) = strip sequences (s ++ x :: t) := by
  cases on with
  | false => rfl
  | true =>
    have escape : ∀ q ∈ sequences, '\x1b' ∉ q.tail := marked_sequences.once
    have ending (u v : Text) : strip sequences (u ++ (reset ++ v)) =
        strip sequences u ++ strip sequences v := by
      have cut := marked_sequences.strip_append_cons escape u (reset.tail ++ v)
      exact cut.trans (congrArg _ (marked_sequences.strip_append reset_mem v))
    rw [Style.apply, if_pos rfl, Style.paint, List.append_assoc, List.append_assoc,
      marked_sequences.strip_append style.opening_mem, ending, strip_reopen,
      marked_sequences.strip_append_cons breaks]

def octetSequences : List Bytes := sequences.map Text.encode

theorem marked_octetSequences : Marked 0x1b octetSequences where
  head := by decide
  once := by decide
  apart := by decide

theorem strip_encode (s : Text) :
    strip octetSequences (Text.encode s) = Text.encode (strip sequences s) := by
  induction s using marked_sequences.induction with
  | nil => rw [Text.encode_nil, strip_nil, strip_nil, Text.encode_nil]
  | sequence q mem s ih =>
    have octets : Text.encode q ∈ octetSequences := List.mem_map_of_mem mem
    rw [Text.encode_append, marked_octetSequences.strip_append octets, ih,
      marked_sequences.strip_append mem]
  | cons c s kept ih =>
    rw [Text.encode_cons, strip_cons kept, Text.encode_cons, ← ih]
    by_cases escape : c = '\x1b'
    · subst escape
      apply strip_cons
      intro octets mem starts
      obtain ⟨q, inside, rfl⟩ := List.mem_map.mp mem
      exact kept q inside (Text.encode_isPrefix_iff.mp starts)
    · have clean : 0x1b ∉ String.utf8EncodeChar c := fun mem =>
        escape ((Text.mem_utf8EncodeChar_iff (a := '\x1b') (by decide)).mp mem)
      exact marked_octetSequences.strip_append_of_notMem clean _

end MethodSignature.Color
