import MethodSignature.Json
import MethodSignature.Signature.Parse
import MethodSignature.Split

/-!
What the program reports: the outcome of reading each signature, or the tokens of a split.
-/

namespace MethodSignature

structure Report where
  input : Text
  outcome : Except Signature.Fault Signature

namespace Report

def isOk (r : Report) : Bool :=
  match r.outcome with
  | .ok _ => true
  | .error _ => false

def ofInput (input : Text) : Logged Report :=
  let parsed := Signature.parse input
  ⟨⟨input, parsed.value⟩, parsed.events⟩

/-- Reads every input on its own; a fault in one does not stop the others. -/
def ofInputs : List Text → Logged (List Report)
  | [] => pure []
  | input :: rest => do
      let report ← ofInput input
      let reports ← ofInputs rest
      return report :: reports

theorem ofInputs_value (inputs : List Text) :
    (ofInputs inputs).value = inputs.map fun s => ⟨s, Signature.parse? s⟩ := by
  induction inputs with
  | nil => rfl
  | cons s rest ih => simp [ofInputs, ih, ofInput, Signature.parse?]

theorem ofInputs_events (inputs : List Text) :
    (ofInputs inputs).events = inputs.flatMap fun s => (Signature.parse s).events := by
  induction inputs with
  | nil => rfl
  | cons s rest ih => simp [ofInputs, ih, ofInput]

def failures (reports : List Report) : Nat := reports.countP (!·.isOk)

end Report

structure SplitResult where
  source : Text
  delimiters : List Text
  tokens : List Text
deriving DecidableEq

def SplitResult.of (source : Text) (delimiters : List Text) : Logged SplitResult :=
  let tokens := splitBy delimiters source
  ⟨⟨source, delimiters, tokens⟩, [.sourceSplit tokens.length]⟩

def Argument.toJson (a : Argument) : Json :=
  .object [("type", .string a.type), ("name", .string a.name)]

def Signature.toJson (sig : Signature) : Json :=
  .object [
    ("access_modifier", match sig.modifier with
      | some m => .string m
      | none => .null),
    ("return_type", .string sig.returnType),
    ("method_name", .string sig.name),
    ("arguments", .list (sig.arguments.map Argument.toJson))]

def Signature.Fault.toJson (fault : Signature.Fault) : Json :=
  .object [("kind", .string fault.kind), ("message", .string fault.message)]

def Report.toJson (r : Report) : Json :=
  .object [
    ("input", .string r.input),
    match r.outcome with
    | .ok sig => ("signature", sig.toJson)
    | .error fault => ("error", fault.toJson)]

def SplitResult.toJson (r : SplitResult) : Json :=
  .object [
    ("source", .string r.source),
    ("delimiters", .list (r.delimiters.map .string)),
    ("tokens", .list (r.tokens.map .string))]

end MethodSignature
