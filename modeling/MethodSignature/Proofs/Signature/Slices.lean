import MethodSignature.Proofs.Signature.Brackets

/-!
Cutting a text at the offsets of its bracket pair. Each offset in use is one where a character
starts, so every part is a range of the octets of the text; with the brackets between them the
parts give the text back, and no other two offsets cut it like this.
-/

namespace MethodSignature.Text

theorem length_encode (s : Text) : (encode s).length = byteSize s := by
  induction s with
  | nil => rfl
  | cons c s ih =>
    rw [encode_cons, List.length_append, ih, String.length_utf8EncodeChar, byteSize_cons]

theorem byteSize_concat (s : Text) (c : Char) : byteSize (s ++ [c]) = byteSize s + c.utf8Size := by
  rw [byteSize_append]
  rfl

theorem isBoundary_iff {s : Text} {n : Nat} :
    s.IsBoundary n ↔ ∃ p r, s = p ++ r ∧ n = byteSize p := by
  constructor
  · intro boundary
    exact ⟨takeBytes n s, dropBytes n s, (takeBytes_append_dropBytes n s).symm, boundary.symm⟩
  · rintro ⟨p, r, rfl, rfl⟩
    rw [IsBoundary, takeBytes_byteSize]

theorem encode_takeBytes {s : Text} {n : Nat} (boundary : s.IsBoundary n) :
    encode (takeBytes n s) = (encode s).take n := by
  obtain ⟨p, r, rfl, rfl⟩ := isBoundary_iff.mp boundary
  rw [takeBytes_byteSize, encode_append, ← length_encode, List.take_left]

theorem encode_dropBytes {s : Text} {n : Nat} (boundary : s.IsBoundary n) :
    encode (dropBytes n s) = (encode s).drop n := by
  obtain ⟨p, r, rfl, rfl⟩ := isBoundary_iff.mp boundary
  rw [dropBytes_byteSize, encode_append, ← length_encode, List.drop_left]

theorem isBoundary_takeBytes {s : Text} {m n : Nat} (lower : s.IsBoundary m)
    (upper : s.IsBoundary n) (ordered : m ≤ n) : IsBoundary (takeBytes n s) m := by
  obtain ⟨p, r, rfl, rfl⟩ := isBoundary_iff.mp lower
  obtain ⟨q, t, same, rfl⟩ := isBoundary_iff.mp upper
  rw [same, takeBytes_byteSize]
  -- of two starts of one text the one with fewer octets is a start of the other
  rcases List.append_eq_append_iff.mp same with ⟨a, rfl, -⟩ | ⟨a, rfl, -⟩
  · exact isBoundary_iff.mpr ⟨p, a, rfl, rfl⟩
  · cases a with
    | nil => exact isBoundary_iff.mpr ⟨q, [], by simp, by simp⟩
    | cons c a =>
      have size := Char.utf8Size_pos c
      rw [byteSize_append, byteSize_cons] at ordered
      omega

theorem encode_range {s : Text} {m n : Nat} (lower : s.IsBoundary m) (upper : s.IsBoundary n)
    (ordered : m ≤ n) :
    encode ((takeBytes n s).dropBytes m) = ((encode s).take n).drop m := by
  rw [encode_dropBytes (isBoundary_takeBytes lower upper ordered), encode_takeBytes upper]

end MethodSignature.Text

namespace MethodSignature.Brackets
open Text

/-- The offsets are those of characters, in order and inside the text; the ranges of octets that
they cut out are the three texts, and nothing but the brackets is lost. -/
structure Slices (s : Text) (b : Brackets) : Prop where
  opening : s.IsBoundary b.opening
  afterOpening : s.IsBoundary (b.opening + 1)
  closing : s.IsBoundary b.closing
  afterClosing : s.IsBoundary (b.closing + 1)
  ordered : b.opening + 1 ≤ b.closing
  inside : b.closing < (encode s).length
  before : encode (b.before s) = (encode s).take b.opening
  between : encode (b.between s) = ((encode s).take b.closing).drop (b.opening + 1)
  after : encode (b.after s) = (encode s).drop (b.closing + 1)
  cut : Cut s (b.before s) (b.between s) (b.after s)

variable {s p a r : Text} {b : Brackets}

theorem Cut.after_eq (cut : Cut s p a r) :
    Brackets.after ⟨byteSize p, byteSize (p ++ '(' :: a)⟩ s = r := by
  have next : byteSize (p ++ '(' :: a) + 1 = byteSize (p ++ '(' :: a ++ [')']) :=
    (byteSize_concat (p ++ '(' :: a) ')').symm
  have split : s = p ++ '(' :: a ++ [')'] ++ r := by simp [cut.text]
  rw [after, next, split, dropBytes_byteSize]

theorem Cut.slices (cut : Cut s p a r) :
    Slices s ⟨byteSize p, byteSize (p ++ '(' :: a)⟩ := by
  have opened : byteSize p + 1 = byteSize (p ++ ['(']) := (byteSize_concat p '(').symm
  have closed : byteSize (p ++ '(' :: a) + 1 = byteSize (p ++ '(' :: a ++ [')']) :=
    (byteSize_concat (p ++ '(' :: a) ')').symm
  have opening : s.IsBoundary (byteSize p) :=
    isBoundary_iff.mpr ⟨p, '(' :: a ++ ')' :: r, by simp [cut.text], rfl⟩
  have afterOpening : s.IsBoundary (byteSize p + 1) :=
    isBoundary_iff.mpr ⟨p ++ ['('], a ++ ')' :: r, by simp [cut.text], opened⟩
  have closing : s.IsBoundary (byteSize (p ++ '(' :: a)) :=
    isBoundary_iff.mpr ⟨p ++ '(' :: a, ')' :: r, cut.text, rfl⟩
  have afterClosing : s.IsBoundary (byteSize (p ++ '(' :: a) + 1) :=
    isBoundary_iff.mpr ⟨p ++ '(' :: a ++ [')'], r, by simp [cut.text], closed⟩
  have ordered : byteSize p + 1 ≤ byteSize (p ++ '(' :: a) := by
    rw [opened, List.append_cons p '(' a, byteSize_append (p ++ ['('])]
    exact Nat.le_add_right _ _
  have inside : byteSize (p ++ '(' :: a) < (encode s).length := by
    have room := Char.utf8Size_pos ')'
    rw [length_encode, cut.text, byteSize_append (p ++ '(' :: a), byteSize_cons]
    omega
  refine ⟨opening, afterOpening, closing, afterClosing, ordered, inside, encode_takeBytes opening,
    encode_range afterOpening closing ordered, encode_dropBytes afterClosing, ?_⟩
  rw [cut.before_eq, cut.between_eq, cut.after_eq]
  exact cut

theorem Slices.locate? (slices : Slices s b) : Brackets.locate? s = some b := by
  have opening : byteSize (b.before s) = b.opening := slices.opening
  have between : byteSize (b.between s) = b.closing - (b.opening + 1) := by
    have inside := slices.inside
    rw [← length_encode, slices.between, List.length_drop, List.length_take]
    omega
  have closing : byteSize (b.before s ++ '(' :: b.between s) = b.closing := by
    have ordered := slices.ordered
    have bracket : Char.utf8Size '(' = 1 := rfl
    rw [byteSize_append, byteSize_cons, opening, between, bracket]
    omega
  rw [slices.cut.locate?, opening, closing]

/-- The pair that is located is the one pair of offsets that cuts the text without loss, and it is
located in every text that can be cut like this. -/
theorem locate?_slices (s : Text) :
    (∀ b, locate? s = some b ↔ Slices s b) ∧
      ((∃ b, locate? s = some b) ↔ ∃ before between after, Cut s before between after) := by
  refine ⟨fun b => ⟨fun found => ?_, Slices.locate?⟩, fun ⟨b, found⟩ => ?_, ?_⟩
  · obtain ⟨p, a, r, cut⟩ := exists_cut_of_locate? found
    obtain rfl : _ = b := Option.some.inj (cut.locate?.symm.trans found)
    exact cut.slices
  · exact exists_cut_of_locate? found
  · rintro ⟨p, a, r, cut⟩
    exact ⟨_, cut.locate?⟩

example : locate? "é(ß)(" = some ⟨2, 5⟩ := by decide

end MethodSignature.Brackets
