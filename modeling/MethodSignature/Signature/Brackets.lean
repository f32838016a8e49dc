import MethodSignature.Text.Basic

/-!
The bracket pair of a written signature: the first opening and the first closing bracket, as
octet offsets, when they stand in that order. They cut the text into what stands before,
between and after them.
-/

namespace MethodSignature

structure Brackets where
  opening : Nat
  closing : Nat
deriving DecidableEq

namespace Brackets

def locate? (s : Text) : Option Brackets :=
  match s.offset? '(', s.offset? ')' with
  | some opening, some closing => if opening < closing then some ⟨opening, closing⟩ else none
  | _, _ => none

def before (b : Brackets) (s : Text) : Text := s.takeBytes b.opening

def between (b : Brackets) (s : Text) : Text :=
  (s.takeBytes b.closing).dropBytes (b.opening + 1)

def after (b : Brackets) (s : Text) : Text := s.dropBytes (b.closing + 1)

end Brackets

end MethodSignature
