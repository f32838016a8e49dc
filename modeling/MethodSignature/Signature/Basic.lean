import MethodSignature.Text.Basic

/-!
Method signatures of one line: an optional access modifier, a return type, a method name and
typed arguments. The words are any text; what a written signature may hold is the reader's
business.
-/

namespace MethodSignature

structure Argument where
  type : Text
  name : Text
deriving DecidableEq

structure Signature where
  modifier : Option Text
  returnType : Text
  name : Text
  arguments : List Argument
deriving DecidableEq

def Argument.render (a : Argument) : Text := a.type ++ ' ' :: a.name

namespace Signature

def renderHead (sig : Signature) : Text :=
  (match sig.modifier with
    | some m => m ++ [' ']
    | none => []) ++ sig.returnType ++ ' ' :: sig.name

/-- Written form: `modifier type name(type name, type name)`. -/
def render (sig : Signature) : Text :=
  sig.renderHead ++ '(' :: List.intercalate [',', ' '] (sig.arguments.map Argument.render) ++ [')']

inductive Fault where
  | noBracketPair
  | wordCount
  | emptyArgument
  | malformedArgument
deriving DecidableEq, Repr

namespace Fault

def kind : Fault → Text
  | noBracketPair => "bracket_pair_not_found"
  | wordCount => "word_count"
  | emptyArgument => "empty_argument"
  | malformedArgument => "malformed_argument"

def message : Fault → Text
  | noBracketPair => "Bracket pair was not found"
  | wordCount => "There must be either 2 or 3 words before brackets."
  | emptyArgument => "Empty argument found."
  | malformedArgument => "Malformed argument found."

theorem kind_injective {a b : Fault} (h : a.kind = b.kind) : a = b := by
  revert h
  cases a <;> cases b <;> decide

theorem message_injective {a b : Fault} (h : a.message = b.message) : a = b := by
  revert h
  cases a <;> cases b <;> decide

end Fault

end Signature

end MethodSignature
