import MethodSignature.Text.Basic

/-!
White space in the sense of the Unicode property `White_Space`.
-/

namespace MethodSignature.Text

def isBlankChar (c : Char) : Bool :=
  let n := c.toNat
  (9 ≤ n && n ≤ 13) || n == 0x20 || n == 0x85 || n == 0xA0 || n == 0x1680 ||
    (0x2000 ≤ n && n ≤ 0x200A) || n == 0x2028 || n == 0x2029 || n == 0x202F ||
    n == 0x205F || n == 0x3000

def isBlank (s : Text) : Bool := s.all isBlankChar

end MethodSignature.Text
