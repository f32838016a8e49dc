import MethodSignature.Color.Choice
import MethodSignature.Command.Init
import MethodSignature.Command.Parse
import MethodSignature.Command.Split
import MethodSignature.CommandLine.Help
import MethodSignature.Log.Filter
import MethodSignature.Log.Line

/-!
A run of the program as a function: from the arguments, the environment, the standard input and
the file system to the exit code, what is written and the file system afterwards.
-/

namespace MethodSignature.Program

structure Input where
  arguments : List Bytes
  environment : Environment
  stdin : Bytes
  fileSystem : FileSystem

structure Result where
  exitCode : Nat
  stdout : Bytes
  log : List Event
  error : Option CommandError
  fileSystem : FileSystem

/-- The filter for the log: from the environment when it has one, and by verbosity when that is
malformed or missing. A filter that cuts a character in two leaves none. -/
def logFilter? (env : Environment) (verbosity : Nat) : Option Log.Filter :=
  let byVerbosity := Log.Filter.upTo (Level.ofVerbosity verbosity).rank
  match (env.text? "RUST_LOG").map Log.Filter.read with
  | none => some byVerbosity
  | some (.error .malformed) => some byVerbosity
  | some (.error .splitCharacter) => none
  | some (.ok filter) => some filter

def logColored (env : Environment) : Bool :=
  match env.text? "NO_COLOR" with
  | some value => value.isEmpty
  | none => true

def stopped (input : Input) : CommandLine.Stop → Result
  | .refused _ => ⟨2, [], [], none, input.fileSystem⟩
  | .help topic => ⟨0, topic.octets input.environment, [], none, input.fileSystem⟩
  | .version => ⟨0, Text.encode CommandLine.versionText, [], none, input.fileSystem⟩

/-- The result of a command; `succeeded` reads off what it returned whether all went well. -/
def finished {α : Type} (succeeded : α → Bool) (before : List Event) (out : Outcome α) : Result :=
  let (code, error) : Nat × Option CommandError :=
    match out.result with
    | .ok a => (if succeeded a then 0 else 1, none)
    | .error e => (1, some e)
  ⟨code, out.stdout, before ++ out.events, error, out.fileSystem⟩

def perform (input : Input) (invocation : CommandLine.Invocation) (config : Logged Config) :
    Result :=
  let color := invocation.color.choose config.value input.environment
  match invocation.request with
  | .parse signatures format output =>
      finished id config.events
        (Command.parse ⟨format.getD config.value.outputFormat, color, output⟩ signatures
          input.stdin input.fileSystem)
  | .split source delimiters format output =>
      finished (fun _ => true) config.events
        (Command.split ⟨format.getD config.value.outputFormat, color, output⟩ source
          (if delimiters.isEmpty then config.value.splitDelimiters else delimiters)
          input.fileSystem)
  | .init force =>
      finished (fun _ => true) config.events (Command.init input.fileSystem force)

def aborted (input : Input) : Result := ⟨101, [], [], none, input.fileSystem⟩

def run (input : Input) : Result :=
  match CommandLine.read input.arguments input.environment with
  | .error stop => stopped input stop
  | .ok invocation =>
      match logFilter? input.environment invocation.verbosity with
      | none => aborted input
      | some filter =>
          let result := perform input invocation (Config.load input.fileSystem)
          { result with log := result.log.filter filter.shows }

def Result.stderr (r : Result) (env : Environment) (time : Text) : Text :=
  r.log.flatMap (Log.line (logColored env) time) ++
    match r.error with
    | some e => "Error: " ++ e.details ++ "\n"
    | none => []

end MethodSignature.Program
