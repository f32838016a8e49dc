import MethodSignature.Command.Basic
import MethodSignature.Text.Blank

/-!
The command that reads signatures and reports on each. They are given on the command line or,
when none is, on the lines of the standard input.
-/

namespace MethodSignature.Command

/-- The lines of a stream, each with its line end; only the last may lack one. -/
def streamLines : Bytes → List Bytes
  | [] => []
  | b :: rest =>
      if b = 0x0A then [b] :: streamLines rest
      else
        match streamLines rest with
        | [] => [[b]]
        | line :: lines => (b :: line) :: lines

def dropLineEnd (s : Text) : Text :=
  if s.getLast? = some '\n' then
    if s.dropLast.getLast? = some '\r' then s.dropLast.dropLast else s.dropLast
  else s

/-- Reads the lines of a stream, each on its own, up to the first that is not UTF-8. -/
def readLines : List Bytes → Except StorageError (List Text)
  | [] => .ok []
  | line :: rest =>
      match Text.decode? line with
      | none => .error .notUtf8
      | some s => (readLines rest).map (dropLineEnd s :: ·)

def collectInputs (signatures : List Text) (stdin : Bytes) :
    Except CommandError (List Text) :=
  if signatures ≠ [] then .ok signatures
  else
    match readLines (streamLines stdin) with
    | .error cause => .error (.unreadableInput cause)
    | .ok lines => .ok (lines.filter (!Text.isBlank ·))

def parse (o : OutputOptions) (signatures : List Text) (stdin : Bytes) (fs : FileSystem) :
    Outcome Bool :=
  match collectInputs signatures stdin with
  | .error e => ⟨.error e, fs, [], []⟩
  | .ok inputs =>
      let reports := Report.ofInputs inputs
      let failed := Report.failures reports.value
      let (result, after, stdout) := o.emit fs (.reports reports.value)
      ⟨result.map fun _ => failed == 0, after, stdout,
        reports.events ++ [.signaturesParsed reports.value.length failed]⟩

end MethodSignature.Command
