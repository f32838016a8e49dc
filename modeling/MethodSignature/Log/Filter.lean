import MethodSignature.Log.Pattern.Valid
import MethodSignature.Log.Verbosity
import MethodSignature.Split

/-!
Which events a log shows. A filter is a list of directives, each a level for the events of some
origins and with some fields; of the directives that care for an event the most specific decides.
-/

namespace MethodSignature.Log

/-- Up to which rank events are shown; zero shows none. -/
abbrev Threshold := Nat

/-- A level for events. The origin is matched at its start; a directive for a span or for the
value of a field concerns no event. -/
structure Directive where
  origin : Option Text := none
  span : Option Text := none
  field : Option Text := none
  hasFieldValue : Bool := false
  threshold : Threshold := Level.trace.rank
deriving DecidableEq

def number? (s : Text) : Option Nat :=
  let digits :=
    match s with
    | '+' :: rest => rest
    | _ => s
  if digits.isEmpty then none
  else (digits.mapM (Text.digitBelow? 10)).map (Text.valueOf 10)

def threshold? (s : Text) : Option Threshold :=
  match (number? s).filter (· ≤ 5) with
  | some n => some n
  | none =>
      let word := Text.lowerCase s
      if word = "off" then some 0
      else ([Level.error, .warn, .info, .debug, .trace].find? (·.keyword = word)).map Level.rank

inductive Fault where
  | malformed
  /-- A part of a directive would start or end inside of a character. -/
  | splitCharacter
deriving DecidableEq

namespace Directive

inductive State where
  | start
  | word (start : Nat)
  | span (start : Nat)
  | field (start : Nat)
  | fields
  | bracketed
  | threshold (start : Nat)

def slice (s : Text) (low high : Nat) : Except Fault Text :=
  if s.IsBoundary low ∧ s.IsBoundary high then .ok ((s.takeBytes high).dropBytes low)
  else .error .splitCharacter

def sliceFrom (s : Text) (low : Nat) : Except Fault Text := slice s low s.byteSize

def startsWord (c : Char) : Bool :=
  c == '-' || c == ':' || c == '_' || Text.isAlphanumeric c

def withField (d : Directive) (s : Text) : Except Fault Directive :=
  let name := s.takeWhile (· != '=')
  match s.dropWhile (· != '=') with
  | [] => if name = [] then .error .malformed else .ok { d with field := some name }
  | _ :: value =>
      if Pattern.isValue (value.takeWhile (· != '=')) then
        .ok { d with field := some name, hasFieldValue := true }
      else .error .malformed

def step (s : Text) (d : Directive) (state : State) (offset : Nat) (c : Char) :
    Except Fault (Directive × State) := do
  match state with
  | .start =>
      if c = '[' then return (d, .span (offset + 1))
      else if startsWord c then return (d, .word offset)
      else throw .malformed
  | .word start =>
      if c = '=' then
        return ({ d with origin := some (← slice s start offset) }, .threshold (offset + 1))
      else if c = '[' then
        return ({ d with origin := some (← slice s start offset) }, .span (offset + 1))
      else return (d, state)
  | .span start =>
      if c = ']' then return ({ d with span := some (← slice s start offset) }, .bracketed)
      else if c = '\x7b' then
        let name ← slice s start offset
        return ({ d with span := if name = [] then none else some name }, .field (offset + 1))
      else return (d, state)
  | .field start =>
      if c = '\x7d' then return (← d.withField (← slice s start offset), .fields)
      else return (d, state)
  | .fields => if c = ']' then return (d, .bracketed) else throw .malformed
  | .bracketed => if c = '=' then return (d, .threshold (offset + 1)) else throw .malformed
  | .threshold _ => return (d, state)

def steps (s : Text) : Text → Nat → Directive → State → Except Fault (Directive × State)
  | [], _, d, state => .ok (d, state)
  | c :: rest, offset, d, state => do
      let (d, state) ← step s d state offset c
      steps s rest (offset + c.utf8Size) d state

def trim (s : Text) : Text :=
  ((s.dropWhile Text.isBlankChar).reverse.dropWhile Text.isBlankChar).reverse

/-- Reads a directive. White space around it is passed over, but offsets count as if it stood at
the end only. -/
def read (s : Text) : Except Fault Directive := do
  let (d, state) ← steps s (trim s) 0 {} .start
  match state with
  | .word start =>
      let word ← sliceFrom s start
      match threshold? word with
      | some t => return { d with threshold := t }
      | none => return { d with origin := some word }
  | .threshold start =>
      let word ← sliceFrom s start
      if word = [] then return d
      match threshold? word with
      | some t => return { d with threshold := t }
      | none => throw .malformed
  | .bracketed => return d
  | _ => throw .malformed

def isStatic (d : Directive) : Bool := d.span.isNone && !d.hasFieldValue

def cares (d : Directive) (e : Event) : Bool :=
  d.isStatic &&
    d.origin.all (·.isPrefixOf e.origin) &&
    d.field.all fun (name : Text) => name == "message" || e.fields.any (·.1 == name)

def originRank (d : Directive) : Nat :=
  match d.origin with
  | some origin => origin.byteSize + 1
  | none => 0

/-- `d` counts rather than `best`: its origin is more specific, or just as specific while its
field is no less so. Naming a field is more specific than naming none; of two names the one that
is later in the alphabet counts, and of two alike directives the later. -/
def yieldsTo (best d : Directive) : Bool :=
  best.originRank < d.originRank ||
    (best.originRank == d.originRank &&
      match best.field, d.field with
      | none, _ => true
      | some _, none => false
      | some name, some other => !List.lex other name fun a b => decide (a < b))

end Directive

abbrev Filter := List Directive

namespace Filter

def upTo (t : Threshold) : Filter := [{ threshold := t }]

def read (s : Text) : Except Fault Filter := do
  let parts := (Split.pieces (· == ',') s).filter (!·.isEmpty)
  let directives ← parts.mapM Directive.read
  return if directives.isEmpty then upTo Level.error.rank else directives

def deciding? (f : Filter) (e : Event) : Option Directive :=
  (f.filter (·.cares e)).foldl (fun best d =>
    match best with
    | none => some d
    | some b => if b.yieldsTo d then some d else some b) none

def shows (f : Filter) (e : Event) : Bool :=
  match f.deciding? e with
  | some d => e.level.rank ≤ d.threshold
  | none => false

end Filter

end MethodSignature.Log
