import MethodSignature.CommandLine.Basic
import MethodSignature.Environment

/-!
Reading a command line. Arguments are taken one by one; the value of a flag and a run of
arguments without a flag stay pending until something else begins, and only then are they
checked. An unknown argument is refused at once, before what is pending.
-/

namespace MethodSignature.CommandLine

def colorVariable : Text := "METHODSIG_COLOR"

def maxVerbosity : Nat := 255

structure Given where
  verbosity : Nat := 0
  color : Option Color.Mode := none
  format : Option Format := none
  output : Option Path := none
  delimiters : List Text := []
  force : Bool := false
  words : List Text := []

/-- What waits to be checked: a flag with or without its value, or arguments without a flag. -/
inductive Pending where
  | value (flag : Flag) (value : Option Bytes)
  | words (words : List Bytes)

structure Reading where
  given : Given := {}
  pending : Option Pending := none
  escaped : Bool := false
  wordCount : Nat := 0

def refuse {α : Type} (e : UsageError) : Except Stop α := .error (.refused e)

def once {α : Type} (old : Option α) (new : Option α) : Except Stop (Option α) :=
  match old, new with
  | some _, _ => refuse .argumentConflict
  | none, none => refuse .invalidValue
  | none, some a => .ok (some a)

namespace Given

def store (g : Given) (flag : Flag) (value : Bytes) : Except Stop Given :=
  match flag with
  | .color => do
      return { g with color := ← once g.color ((Text.decode? value).bind Color.Mode.ofName?) }
  | .format => do
      return { g with format := ← once g.format ((Text.decode? value).bind Format.ofName?) }
  | .output => do
      return { g with output := ← once g.output (if value = [] then none else some ⟨value⟩) }
  | .delimiter =>
      match Text.decode? value with
      | some s => .ok { g with delimiters := g.delimiters ++ [s] }
      | none => refuse .invalidUtf8
  | _ => refuse .tooManyValues

def storeWords (g : Given) (words : List Bytes) : Except Stop Given :=
  match words.mapM Text.decode? with
  | some texts => .ok { g with words := g.words ++ texts }
  | none => refuse .invalidUtf8

end Given

namespace Reading

def awaitsValue (r : Reading) : Bool :=
  match r.pending with
  | some (.value _ none) => true
  | _ => false

def settle (r : Reading) : Except Stop Reading :=
  match r.pending with
  | none => .ok r
  | some (.value _ none) => refuse .invalidValue
  | some (.value flag (some value)) => do
      return { r with given := ← r.given.store flag value, pending := none }
  | some (.words words) => do
      return { r with given := ← r.given.storeWords words, pending := none }

def takeFlag (r : Reading) (scope : Scope) (flag : Flag) : Except Stop Reading := do
  let r ← r.settle
  match flag with
  | .help => throw (.help (.scope scope))
  | .version => throw .version
  | .force =>
      if r.given.force then refuse .argumentConflict
      else return { r with given := { r.given with force := true } }
  | .verbose =>
      return { r with given :=
        { r.given with verbosity := min (r.given.verbosity + 1) maxVerbosity } }
  | _ => return r

def takeValueFlag (r : Reading) (flag : Flag) (attached : Option Bytes) :
    Except Stop Reading := do
  let r ← r.settle
  match attached with
  | some value => return { r with given := ← r.given.store flag value }
  | none => return { r with pending := some (.value flag none) }

def takeLong (r : Reading) (scope : Scope) (body : Bytes) : Except Stop Reading :=
  let name := body.takeWhile (· != 0x3D)
  let value := (body.dropWhile (· != 0x3D)).tail?
  match (Text.decode? name).bind scope.long? with
  | none => refuse .unknownArgument
  | some flag =>
      if flag.takesValue then r.takeValueFlag flag value
      else if value.isSome then refuse .tooManyValues
      else r.takeFlag scope flag

/-- Takes what follows one dash: flags of one letter each, the last perhaps with a value. The
first argument counts octets that belong to the letter before. -/
def takeShort (scope : Scope) : Nat → Bytes → Reading → Except Stop Reading
  | _, [], r => .ok r
  | k + 1, _ :: rest, r => takeShort scope k rest r
  | 0, lead :: rest, r =>
      match Text.scanChar lead rest with
      | (none, _) => refuse .unknownArgument
      | (some c, used) =>
          match scope.short? c with
          | none => refuse .unknownArgument
          | some flag =>
              if flag.takesValue then
                match rest.drop used with
                | [] => r.takeValueFlag flag none
                | b :: value =>
                    r.takeValueFlag flag (some (if b = 0x3D then value else b :: value))
              else do takeShort scope used rest (← r.takeFlag scope flag)

def takeWord (r : Reading) (scope : Scope) (word : Bytes) : Except Stop Reading :=
  if scope.capacity.all (r.wordCount < ·) then
    match r.pending with
    | some (.words words) =>
        .ok { r with pending := some (.words (words ++ [word])), wordCount := r.wordCount + 1 }
    | _ => do
        let r ← r.settle
        return { r with pending := some (.words [word]), wordCount := r.wordCount + 1 }
  else if scope = .top ∧ ¬(r.escaped ∧ (Verb.ofWord? word).isSome) then
    refuse .invalidSubcommand
  else refuse .unknownArgument

def take (r : Reading) (scope : Scope) (argument : Bytes) : Except Stop Reading :=
  if r.escaped then r.takeWord scope argument
  else
    match argument with
    | [0x2D, 0x2D] => .ok { r with escaped := true }
    | 0x2D :: 0x2D :: body => r.takeLong scope body
    | 0x2D :: b :: letters => takeShort scope 0 (b :: letters) r
    | _ =>
        match r.pending with
        | some (.value flag none) =>
            .ok { r with pending := some (.value flag (some argument)) }
        | _ => r.takeWord scope argument

end Reading

def readTop : List Bytes → Reading → Except Stop (Reading × Option (Verb × List Bytes))
  | [], r => .ok (r, none)
  | argument :: rest, r =>
      match (if r.escaped || r.awaitsValue then none else Verb.ofWord? argument) with
      | some verb => .ok (r, some (verb, rest))
      | none => do readTop rest (← r.take .top argument)

structure Settled where
  given : Given
  environmentColor : Option Color.Mode

/-- Ends a scope. The variable counts, and must be valid, where the color flag is missing. -/
def Reading.finish (r : Reading) (env : Environment) : Except Stop Settled := do
  let r ← r.settle
  if r.given.color.isSome then return ⟨r.given, none⟩
  match env.get? colorVariable with
  | none => return ⟨r.given, none⟩
  | some value =>
      match (Text.decode? value).bind Color.Mode.ofName? with
      | some mode => return ⟨r.given, some mode⟩
      | none => refuse .invalidValue

def readScope (scope : Scope) (arguments : List Bytes) (env : Environment) :
    Except Stop Settled := do
  let r ← arguments.foldlM (fun (r : Reading) a => r.take scope a) ({} : Reading)
  r.finish env

def request (scope : Scope) (g : Given) : Except Stop Request :=
  match scope, g.words with
  | .parse, words => .ok (.parse words g.format g.output)
  | .split, source :: _ => .ok (.split source g.delimiters g.format g.output)
  | .split, [] => refuse .missingRequiredArgument
  | .init, _ => .ok (.init g.force)
  | .top, _ => refuse .missingSubcommand

def helpTopic : List Bytes → Except Stop Topic
  | [] => .ok (.scope .top)
  | [word] =>
      match Verb.ofWord? word with
      | some .parse => .ok (.scope .parse)
      | some .split => .ok (.scope .split)
      | some .init => .ok (.scope .init)
      | some .help => .ok .help
      | none => refuse .invalidSubcommand
  | _ => refuse .invalidSubcommand

/-- Puts together what stands before and after the command: what stands after it wins, and the
environment comes last. -/
def combine (before after : Settled) (request : Request) : Invocation where
  verbosity := if after.given.verbosity = 0 then before.given.verbosity else after.given.verbosity
  color :=
    (after.given.color <|> before.given.color <|> after.environmentColor <|>
      before.environmentColor).getD .auto
  request := request

def read (arguments : List Bytes) (env : Environment) : Except Stop Invocation := do
  match ← readTop arguments {} with
  | (_, some (.help, rest)) => throw (.help (← helpTopic rest))
  | (top, some (.parse, rest)) => readCommand top .parse rest
  | (top, some (.split, rest)) => readCommand top .split rest
  | (top, some (.init, rest)) => readCommand top .init rest
  | (top, none) =>
      let settled ← top.finish env
      if settled.given.verbosity = 0 ∧ settled.given.color = none ∧
          settled.environmentColor = none then
        refuse .nothingGiven
      else refuse .missingSubcommand
where
  readCommand (top : Reading) (scope : Scope) (rest : List Bytes) : Except Stop Invocation := do
    let after ← readScope scope rest env
    let request ← request scope after.given
    let before ← top.finish env
    return combine before after request

end MethodSignature.CommandLine
