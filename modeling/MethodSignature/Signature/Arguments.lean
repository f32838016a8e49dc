import MethodSignature.Event
import MethodSignature.Split

/-!
Reading the text between the brackets. A comma with one space after it is the same as a comma;
all other spacing has to fit the shape `type name`, where only trailing spaces are let pass.
-/

namespace MethodSignature.Signature

/-- Drops the space of every comma that is followed by one; the text is passed over once. -/
def closeCommas : Text → Text
  | ',' :: ' ' :: s => ',' :: closeCommas s
  | c :: s => c :: closeCommas s
  | [] => []

/-- The parts of a token between single spaces, without the empty ones at its end. -/
def argumentParts (token : Text) : List Text :=
  Text.dropTrailingEmpty (Split.pieces (· == ' ') token)

def readArgument (token : Text) : Logged (Except Fault Argument) :=
  match argumentParts token with
  | [c :: type, name] =>
      ⟨.ok ⟨c :: type, name⟩, [.argumentParsed ⟨c :: type, name⟩]⟩
  | parts => ⟨.error .malformedArgument, [.argumentMalformed token parts.length]⟩

def readTokens : List Text → Logged (Except Fault (List Argument))
  | [] => pure (.ok [])
  | token :: rest =>
      let first := readArgument token
      match first.value with
      | .error fault => ⟨.error fault, first.events⟩
      | .ok argument =>
          let others := readTokens rest
          ⟨others.value.map (argument :: ·), first.events ++ others.events⟩

/-- Reads an argument list. Two commas with nothing between them are found before any token is
looked at. -/
def readArguments (list : Text) : Logged (Except Fault (List Argument)) :=
  let closed := closeCommas list
  if Text.hasInfix [',', ','] closed then pure (.error .emptyArgument)
  else readTokens (splitBy [[',']] closed)

end MethodSignature.Signature
