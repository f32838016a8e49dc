import MethodSignature.Text.Basic

/-!
Octets of the UTF-8 form of a text. An octet below 0x80 is a whole character, never a part of
one, and one form is the start of another only where the texts are.
-/

namespace MethodSignature.Text

theorem toNat_toUInt8 {a : Char} (ascii : a.toNat < 0x80) : a.toUInt8.toNat = a.toNat := by
  have low : a.toUInt8.toNat = a.toNat % 256 := rfl
  omega

theorem utf8EncodeChar_of_ascii {a : Char} (ascii : a.toNat < 0x80) :
    String.utf8EncodeChar a = [a.toUInt8] := by
  have size : a.utf8Size = 1 := by
    rw [Char.utf8Size_eq_one_iff, UInt32.le_iff_toNat_le]
    exact Nat.le_of_lt_succ ascii
  exact String.utf8EncodeChar_eq_singleton size

theorem le_toNat_ofNat_mod_add (n : Nat) {m k : Nat} (high : 0x80 ≤ k) (positive : 0 < m)
    (fits : m + k ≤ 256) : 0x80 ≤ (UInt8.ofNat (n % m + k)).toNat := by
  have below : n % m < m := Nat.mod_lt n positive
  have exact : (UInt8.ofNat (n % m + k)).toNat = n % m + k := by
    rw [UInt8.toNat_ofNat']
    exact Nat.mod_eq_of_lt (by omega)
  omega

theorem le_of_mem_utf8EncodeChar {b : UInt8} {c : Char} (wide : 0x80 ≤ c.toNat)
    (mem : b ∈ String.utf8EncodeChar c) : 0x80 ≤ b.toNat := by
  have large : ¬ c.val.toNat ≤ 0x7f := Nat.not_le.mpr wide
  simp only [String.utf8EncodeChar, large, if_false] at mem
  -- two, three or four octets, each a remainder above 0x80
  split at mem
  · simp only [List.mem_cons, List.not_mem_nil, or_false] at mem
    rcases mem with rfl | rfl <;>
      exact le_toNat_ofNat_mod_add _ (by decide) (by decide) (by decide)
  split at mem
  · simp only [List.mem_cons, List.not_mem_nil, or_false] at mem
    rcases mem with rfl | rfl | rfl <;>
      exact le_toNat_ofNat_mod_add _ (by decide) (by decide) (by decide)
  · simp only [List.mem_cons, List.not_mem_nil, or_false] at mem
    rcases mem with rfl | rfl | rfl | rfl <;>
      exact le_toNat_ofNat_mod_add _ (by decide) (by decide) (by decide)

theorem mem_utf8EncodeChar_iff {a c : Char} (ascii : a.toNat < 0x80) :
    a.toUInt8 ∈ String.utf8EncodeChar c ↔ c = a := by
  constructor
  · intro mem
    have number := toNat_toUInt8 ascii
    by_cases wide : 0x80 ≤ c.toNat
    · have high := le_of_mem_utf8EncodeChar wide mem
      omega
    · have narrow : c.toNat < 0x80 := Nat.lt_of_not_le wide
      rw [utf8EncodeChar_of_ascii narrow, List.mem_singleton] at mem
      have same : c.toNat = a.toNat := by
        rw [← number, mem, toNat_toUInt8 narrow]
      exact Char.toNat_inj.mp same
  · rintro rfl
    rw [utf8EncodeChar_of_ascii ascii]
    exact List.mem_singleton_self _

theorem mem_encode_iff {a : Char} (ascii : a.toNat < 0x80) {s : Text} :
    a.toUInt8 ∈ encode s ↔ a ∈ s := by
  rw [encode, List.mem_flatMap]
  simp only [mem_utf8EncodeChar_iff ascii, exists_eq_right]

theorem utf8EncodeChar_append_inj {c d : Char} {a b : Bytes}
    (same : String.utf8EncodeChar c ++ a = String.utf8EncodeChar d ++ b) : c = d ∧ a = b := by
  have first := ByteArray.utf8DecodeChar?_utf8EncodeChar_append (b := a.toByteArray) (c := c)
  rw [← List.toByteArray_append, same, List.toByteArray_append,
    ByteArray.utf8DecodeChar?_utf8EncodeChar_append] at first
  obtain rfl := Option.some.inj first
  exact ⟨rfl, List.append_cancel_left same⟩

theorem encode_isPrefix_iff {s t : Text} : encode s <+: encode t ↔ s <+: t := by
  constructor
  · intro h
    induction s generalizing t with
    | nil => exact List.nil_prefix
    | cons c s ih =>
      obtain ⟨rest, same⟩ := h
      cases t with
      | nil =>
        have empty := (List.append_eq_nil_iff.mp same).1
        exact absurd empty (encode_ne_nil (List.cons_ne_nil c s))
      | cons d t =>
        rw [encode_cons, encode_cons, List.append_assoc] at same
        obtain ⟨rfl, tails⟩ := utf8EncodeChar_append_inj same
        exact List.cons_prefix_cons.mpr ⟨rfl, ih ⟨rest, tails⟩⟩
  · rintro ⟨rest, rfl⟩
    exact ⟨encode rest, (encode_append s rest).symm⟩

end MethodSignature.Text
