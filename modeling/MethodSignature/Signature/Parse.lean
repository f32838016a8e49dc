import MethodSignature.Signature.Arguments
import MethodSignature.Signature.Brackets

/-!
Reading a written signature. The rules are checked in the order bracket pair, words before the
brackets, empty argument, shape of each argument; the first rule that is broken is the fault.
Text after the closing bracket is not looked at.
-/

namespace MethodSignature.Signature

structure Head where
  modifier : Option Text
  returnType : Text
  name : Text
deriving DecidableEq

/-- Reads the words before the brackets by their number alone. -/
def readHead (before : Text) : Except Fault Head :=
  match splitBy [[' ']] before with
  | [returnType, name] => .ok ⟨none, returnType, name⟩
  | [modifier, returnType, name] => .ok ⟨some modifier, returnType, name⟩
  | _ => .error .wordCount

def ofHead (head : Head) (arguments : List Argument) : Signature :=
  ⟨head.modifier, head.returnType, head.name, arguments⟩

/-- Reads a signature, logging only what happens to its arguments. -/
def read (s : Text) : Logged (Except Fault Signature) :=
  match Brackets.locate? s with
  | none => pure (.error .noBracketPair)
  | some brackets =>
      match readHead (brackets.before s) with
      | .error fault => pure (.error fault)
      | .ok head =>
          let arguments := readArguments (brackets.between s)
          ⟨arguments.value.map (ofHead head), arguments.events⟩

def verdict (s : Text) : Except Fault Signature → Event
  | .ok sig => .signatureParsed sig.name sig.arguments.length
  | .error fault => .signatureRejected s fault

def parse (s : Text) : Logged (Except Fault Signature) := do
  let outcome ← read s
  Logged.log (verdict s outcome)
  return outcome

def parse? (s : Text) : Except Fault Signature := (parse s).value

theorem parse_value (s : Text) : (parse s).value = (read s).value := rfl

theorem parse_events (s : Text) :
    (parse s).events = (read s).events ++ [verdict s (read s).value] := rfl

end MethodSignature.Signature
