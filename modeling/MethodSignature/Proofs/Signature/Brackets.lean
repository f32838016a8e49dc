import MethodSignature.Signature.Brackets
import Mathlib.Data.List.Basic

/-!
Where the bracket pair of a text stands. Offsets in octets are tied to the characters in front
of them, so that locating the pair comes to cutting the text in three; a text that has no such
cut is without a pair.
-/

namespace MethodSignature.Text

@[simp] theorem byteSize_append (p r : Text) : byteSize (p ++ r) = byteSize p + byteSize r := by
  induction p with
  | nil => simp
  | cons c p ih => simp [ih, Nat.add_assoc]

theorem offset?_eq_none_iff {c : Char} {s : Text} : offset? c s = none ↔ c ∉ s := by
  induction s with
  | nil => simp [offset?]
  | cons d s ih =>
      by_cases same : d = c
      · simp [offset?, same]
      · simp [offset?, same, Ne.symm same, ih]

theorem offset?_append_cons {c : Char} {p : Text} (first : c ∉ p) (r : Text) :
    offset? c (p ++ c :: r) = some (byteSize p) := by
  induction p with
  | nil => simp [offset?]
  | cons d p ih =>
      obtain ⟨other, later⟩ := not_or.mp (mt List.mem_cons.mpr first)
      simp [offset?, Ne.symm other, ih later]

theorem offset?_eq_some {c : Char} {s : Text} {n : Nat} (found : offset? c s = some n) :
    ∃ p r, s = p ++ c :: r ∧ c ∉ p ∧ n = byteSize p := by
  have mem : c ∈ s := by
    by_contra absent
    rw [offset?_eq_none_iff.mpr absent] at found
    nomatch found
  obtain ⟨p, r, rfl, first⟩ := List.eq_append_cons_of_mem mem
  rw [offset?_append_cons first] at found
  exact ⟨p, r, rfl, first, (Option.some.inj found).symm⟩

theorem takeBytes_byteSize (p r : Text) : takeBytes (byteSize p) (p ++ r) = p := by
  induction p with
  | nil =>
      cases r with
      | nil => rfl
      | cons c r => simp [takeBytes, Nat.ne_of_gt (Char.utf8Size_pos c)]
  | cons c p ih => simp [takeBytes, ih]

theorem dropBytes_byteSize (p r : Text) : dropBytes (byteSize p) (p ++ r) = r := by
  have whole := takeBytes_append_dropBytes (byteSize p) (p ++ r)
  rw [takeBytes_byteSize] at whole
  exact List.append_cancel_left whole

end MethodSignature.Text

namespace MethodSignature.Brackets
open Text

/-- The text is `before ( between ) after`, cut at its first opening and its first closing
bracket. -/
structure Cut (s before between after : Text) : Prop where
  text : s = before ++ '(' :: between ++ ')' :: after
  opening_notMem : '(' ∉ before
  closing_notMem_before : ')' ∉ before
  closing_notMem_between : ')' ∉ between

/-- A bracket is missing, or the first closing one stands before the first opening one. -/
def Unpaired (s : Text) : Prop :=
  '(' ∉ s ∨ ')' ∉ s ∨ s.idxOf ')' < s.idxOf '('

theorem Cut.locate? {s p a r : Text} (cut : Cut s p a r) :
    Brackets.locate? s = some ⟨byteSize p, byteSize (p ++ '(' :: a)⟩ := by
  have opening : s.offset? '(' = some (byteSize p) := by
    rw [cut.text, List.append_assoc]
    exact offset?_append_cons cut.opening_notMem _
  have closing : s.offset? ')' = some (byteSize (p ++ '(' :: a)) := by
    rw [cut.text]
    refine offset?_append_cons ?_ r
    simp [cut.closing_notMem_before, cut.closing_notMem_between]
  have ordered : byteSize p < byteSize (p ++ '(' :: a) := by
    have size := Char.utf8Size_pos '('
    simp only [byteSize_append, byteSize_cons]
    omega
  simp only [Brackets.locate?, opening, closing, ordered, if_true]

theorem Cut.before_eq {s p a r : Text} (cut : Cut s p a r) {n : Nat} :
    Brackets.before ⟨byteSize p, n⟩ s = p := by
  rw [before, cut.text, List.append_assoc, takeBytes_byteSize]

theorem Cut.between_eq {s p a r : Text} (cut : Cut s p a r) :
    Brackets.between ⟨byteSize p, byteSize (p ++ '(' :: a)⟩ s = a := by
  have next : byteSize p + 1 = byteSize (p ++ ['(']) := by
    rw [byteSize_append]
    rfl
  have split : p ++ '(' :: a = (p ++ ['(']) ++ a := by simp
  rw [between, cut.text, takeBytes_byteSize, next, split, dropBytes_byteSize]

theorem exists_cut_of_locate? {s : Text} {b : Brackets} (found : locate? s = some b) :
    ∃ p a r, Cut s p a r := by
  cases opening : s.offset? '(' with
  | none => simp [locate?, opening] at found
  | some m =>
      cases closing : s.offset? ')' with
      | none => simp [locate?, opening, closing] at found
      | some n =>
          have ordered : m < n := by
            by_contra reversed
            simp [locate?, opening, closing, reversed] at found
          obtain ⟨p, t, hp, firstOpening, rfl⟩ := offset?_eq_some opening
          obtain ⟨q, r, hq, firstClosing, rfl⟩ := offset?_eq_some closing
          -- One text in front of a bracket starts with the other; their sizes say which.
          rcases List.append_eq_append_iff.mp (hp.symm.trans hq) with
            ⟨a, rfl, later⟩ | ⟨a, rfl, earlier⟩
          · cases a with
            | nil => simp at later
            | cons c a =>
                obtain ⟨rfl, rfl⟩ := List.cons.inj later
                simp only [List.mem_append, List.mem_cons, not_or] at firstClosing
                exact ⟨p, a, r, by simpa using hp, firstOpening, firstClosing.1,
                  firstClosing.2.2⟩
          · rw [byteSize_append] at ordered
            omega

theorem Cut.not_unpaired {s p a r : Text} (cut : Cut s p a r) : ¬ Unpaired s := by
  have opening : s.idxOf '(' = p.length := by
    rw [cut.text, List.append_assoc, List.idxOf_append_of_notMem cut.opening_notMem]
    simp
  have closing : s.idxOf ')' = (p ++ '(' :: a).length := by
    rw [cut.text, List.idxOf_append_of_notMem]
    · simp
    · simp [cut.closing_notMem_before, cut.closing_notMem_between]
  rintro (absent | absent | reversed)
  · exact absent (by simp [cut.text])
  · exact absent (by simp [cut.text])
  · rw [opening, closing, List.length_append, List.length_cons] at reversed
    omega

theorem exists_cut_of_not_unpaired {s : Text} (paired : ¬ Unpaired s) :
    ∃ p a r, Cut s p a r := by
  simp only [Unpaired, not_or, not_not, Nat.not_lt] at paired
  obtain ⟨hasOpening, hasClosing, ordered⟩ := paired
  obtain ⟨p, t, rfl, firstOpening⟩ := List.eq_append_cons_of_mem hasOpening
  have closingLater : ')' ∉ p := by
    intro early
    rw [List.idxOf_append_of_notMem firstOpening, List.idxOf_append_of_mem early] at ordered
    have bound := List.idxOf_lt_length_of_mem early
    omega
  have inTail : ')' ∈ t := by simpa [closingLater] using hasClosing
  obtain ⟨a, r, rfl, firstClosing⟩ := List.eq_append_cons_of_mem inTail
  exact ⟨p, a, r, by simp, firstOpening, closingLater, firstClosing⟩

theorem locate?_eq_none_iff {s : Text} : locate? s = none ↔ Unpaired s := by
  constructor
  · intro missing
    by_contra paired
    obtain ⟨p, a, r, cut⟩ := exists_cut_of_not_unpaired paired
    rw [cut.locate?] at missing
    nomatch missing
  · intro unpaired
    cases found : locate? s with
    | none => rfl
    | some b =>
        obtain ⟨p, a, r, cut⟩ := exists_cut_of_locate? found
        exact absurd unpaired cut.not_unpaired

end MethodSignature.Brackets
