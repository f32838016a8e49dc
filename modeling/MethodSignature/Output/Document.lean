import MethodSignature.Color.Basic
import MethodSignature.Report

/-!
What is written to an output, in one of two formats: JSON for programs, and lines for people.
A document is written as a sequence of chunks, one after the other.
-/

namespace MethodSignature

inductive Format where
  | json
  | terminal
deriving DecidableEq, Repr

namespace Format

def name : Format → Text
  | json => "json"
  | terminal => "terminal"

def ofName? (s : Text) : Option Format :=
  [json, terminal].find? (·.name = s)

end Format

inductive Document where
  | reports (reports : List Report)
  | split (result : SplitResult)

namespace Document

def toJson : Document → Json
  | reports rs => .list (rs.map Report.toJson)
  | split result => result.toJson

end Document

namespace Terminal

open Color

def argumentLine (index : Nat) (a : Argument) : Text :=
  "    [" ++ Text.ofNat index ++ "] " ++ a.render ++ "\n"

def detailLine (colored : Bool) (label value : Text) : Text :=
  "  " ++ Style.dim.apply colored label ++ " " ++ value ++ "\n"

def signatureLines (colored : Bool) (sig : Signature) : List Text :=
  [detailLine colored "access modifier:" (sig.modifier.getD "(none)"),
    detailLine colored "return type:    " sig.returnType,
    detailLine colored "method name:    " sig.name,
    detailLine colored "arguments:      " (Text.ofNat sig.arguments.length)] ++
  sig.arguments.zipIdx.map fun (a, index) => argumentLine index a

def reportLines (colored : Bool) (r : Report) : List Text :=
  match r.outcome with
  | .ok sig =>
      (Style.success.apply colored ("[OK] " ++ r.input) ++ "\n") :: signatureLines colored sig
  | .error fault =>
      [Style.error.apply colored ("[FAIL] " ++ r.input) ++ "\n", "  " ++ fault.message ++ "\n"]

def summary (reports : List Report) : Text :=
  let failed := Report.failures reports
  Text.ofNat (reports.length - failed) ++ " parsed, " ++ Text.ofNat failed ++ " failed"

def tokenLine (index : Nat) (token : Text) : Text :=
  "  [" ++ Text.ofNat index ++ "] " ++ token ++ "\n"

def lines (colored : Bool) : Document → List Text
  | .reports reports =>
      reports.flatMap (reportLines colored) ++
        [Style.header.apply colored (summary reports) ++ "\n"]
  | .split result =>
      (Style.header.apply colored (Text.ofNat result.tokens.length ++ " token(s)") ++ "\n") ::
        result.tokens.zipIdx.map fun (token, index) => tokenLine index token

end Terminal

namespace Document

def chunks (format : Format) (colored : Bool) (d : Document) : List Text :=
  match format with
  | .json => [d.toJson.pretty 0, "\n"]
  | .terminal => Terminal.lines colored d

def render (format : Format) (colored : Bool) (d : Document) : Text :=
  (d.chunks format colored).flatten

end Document

end MethodSignature
