/-!
Text is a list of characters and stored data is a list of octets. Characters are
counted one by one; offsets into stored text count the octets of its UTF-8 form.
-/

namespace MethodSignature

abbrev Text := List Char

abbrev Bytes := List UInt8

instance : Coe String Text := ⟨String.toList⟩

namespace Text

def encode (s : Text) : Bytes := s.flatMap String.utf8EncodeChar

@[simp] theorem encode_nil : encode [] = [] := rfl

@[simp] theorem encode_cons (c : Char) (s : Text) :
    encode (c :: s) = String.utf8EncodeChar c ++ encode s := rfl

@[simp] theorem encode_append (s t : Text) : encode (s ++ t) = encode s ++ encode t := by
  simp [encode]

theorem encode_flatten (chunks : List Text) :
    encode chunks.flatten = (chunks.map encode).flatten := by
  induction chunks with
  | nil => rfl
  | cons chunk rest ih => rw [List.flatten_cons, encode_append, ih]; rfl

theorem encode_ne_nil {s : Text} (nonempty : s ≠ []) : encode s ≠ [] := by
  obtain ⟨c, rest, rfl⟩ := List.exists_cons_of_ne_nil nonempty
  have size : (String.utf8EncodeChar c).length = c.utf8Size := String.length_utf8EncodeChar c
  have positive : 0 < c.utf8Size := Char.utf8Size_pos c
  intro empty
  rw [encode_cons, List.append_eq_nil_iff] at empty
  rw [empty.1, List.length_nil] at size
  omega

def decode? (b : Bytes) : Option Text := (String.fromUTF8? b.toByteArray).map String.toList

theorem decode?_encode (s : Text) : decode? (encode s) = some s := by
  have valid : (encode s).toByteArray.IsValidUTF8 := ⟨s, rfl⟩
  have same : String.fromUTF8 (encode s).toByteArray valid = String.ofList s := rfl
  simp [decode?, String.fromUTF8?, valid, same]

theorem encode_inj {s t : Text} : encode s = encode t ↔ s = t := by
  constructor
  · intro same
    have decoded := decode?_encode s
    rw [same, decode?_encode] at decoded
    exact (Option.some.inj decoded).symm
  · exact congrArg encode

theorem decode?_eq_some_iff {b : Bytes} {s : Text} : decode? b = some s ↔ b = encode s := by
  constructor
  · intro h
    by_cases valid : b.toByteArray.IsValidUTF8
    · obtain ⟨t, ht⟩ := valid
      have same : b = encode t := List.toByteArray_inj.mp ht
      rw [same, decode?_encode] at h
      rw [same, Option.some.inj h]
    · simp [decode?, String.fromUTF8?, valid] at h
  · intro h
    rw [h, decode?_encode]

def byteSize : Text → Nat
  | [] => 0
  | c :: s => c.utf8Size + byteSize s

@[simp] theorem byteSize_nil : byteSize [] = 0 := rfl

@[simp] theorem byteSize_cons (c : Char) (s : Text) :
    byteSize (c :: s) = c.utf8Size + byteSize s := rfl

def offset? (c : Char) : Text → Option Nat
  | [] => none
  | d :: s => if d = c then some 0 else (offset? c s).map (d.utf8Size + ·)

/-- The characters that lie wholly before an octet offset. -/
def takeBytes : Nat → Text → Text
  | _, [] => []
  | n, c :: s => if c.utf8Size ≤ n then c :: takeBytes (n - c.utf8Size) s else []

def dropBytes : Nat → Text → Text
  | _, [] => []
  | n, c :: s => if c.utf8Size ≤ n then dropBytes (n - c.utf8Size) s else c :: s

theorem takeBytes_append_dropBytes (n : Nat) (s : Text) :
    takeBytes n s ++ dropBytes n s = s := by
  induction s generalizing n with
  | nil => rfl
  | cons c s ih =>
      simp only [takeBytes, dropBytes]
      split
      · simp [ih]
      · rfl

/-- An offset at which a character starts, or the end of the text. -/
def IsBoundary (s : Text) (n : Nat) : Prop := byteSize (takeBytes n s) = n

instance (s : Text) (n : Nat) : Decidable (IsBoundary s n) :=
  inferInstanceAs (Decidable (_ = _))

def ofNat (n : Nat) : Text := Nat.toDigits 10 n

theorem exists_digit_cons_ofNat (n : Nat) :
    ∃ c s, ofNat n = c :: s ∧ c.isDigit = true := by
  cases digits : ofNat n with
  | nil => exact absurd digits Nat.toDigits_ne_nil
  | cons c s =>
    have leads : c ∈ Nat.toDigits 10 n := by
      rw [← ofNat, digits]
      exact List.mem_cons_self
    exact ⟨c, s, rfl, Nat.isDigit_of_mem_toDigits (by decide) (by decide) leads⟩

def hex (n : Nat) : Text := Nat.toDigits 16 n

def lowerCase (s : Text) : Text := s.map Char.toLower

def hasInfix (needle : Text) : Text → Bool
  | [] => needle.isEmpty
  | c :: s => needle.isPrefixOf (c :: s) || hasInfix needle s

def dropTrailingEmpty (parts : List Text) : List Text :=
  (parts.reverse.dropWhile List.isEmpty).reverse

end Text

end MethodSignature
