import MethodSignature.Text.Utf8

/-!
Styled text for a place that is no terminal: control sequences are left out, and of the control
characters only white space stays. A sequence that does not end takes what follows it along, up
to the next escape.
-/

namespace MethodSignature.Color.Plain

inductive State where
  | ground
  | escape
  | escapeIntermediate
  | controlEntry
  | controlParameter
  | controlIntermediate
  | controlIgnore
  | deviceEntry
  | deviceParameter
  | deviceIntermediate
  | deviceContent
  | systemCommand
  | message
deriving DecidableEq

def between (low high b : UInt8) : Bool := low ≤ b && b ≤ high

def isIntermediate (b : UInt8) : Bool := between 0x20 0x2F b

def isParameter (b : UInt8) : Bool := between 0x30 0x3B b

def isPrivate (b : UInt8) : Bool := between 0x3C 0x3F b

def isFinal (b : UInt8) : Bool := between 0x40 0x7E b

namespace State

def afterEscape? (b : UInt8) : Option State :=
  if isIntermediate b then some escapeIntermediate
  else if b = 0x5B then some controlEntry
  else if b = 0x5D then some systemCommand
  else if b = 0x50 then some deviceEntry
  else if b = 0x58 ∨ b = 0x5E ∨ b = 0x5F then some message
  else if between 0x30 0x7E b then some ground
  else none

/-- The state after an octet, when it changes. Two controls break off any sequence, and an escape
starts a new one. -/
def next? (s : State) (b : UInt8) : Option State :=
  if b = 0x18 ∨ b = 0x1A then some ground
  else if b = 0x1B then some escape
  else
    match s with
    | ground => none
    | escape => afterEscape? b
    | escapeIntermediate => if between 0x30 0x7E b then some ground else none
    | controlEntry =>
        if isIntermediate b then some controlIntermediate
        else if isParameter b || isPrivate b then some controlParameter
        else if isFinal b then some ground
        else none
    | controlParameter =>
        if isIntermediate b then some controlIntermediate
        else if isPrivate b then some controlIgnore
        else if isFinal b then some ground
        else none
    | controlIntermediate =>
        if isParameter b || isPrivate b then some controlIgnore
        else if isFinal b then some ground
        else none
    | controlIgnore => if isFinal b then some ground else none
    | deviceEntry =>
        if isIntermediate b then some deviceIntermediate
        else if isParameter b || isPrivate b then some deviceParameter
        else if isFinal b then some deviceContent
        else none
    | deviceParameter =>
        if isIntermediate b then some deviceIntermediate
        else if isPrivate b then some message
        else if isFinal b then some deviceContent
        else none
    | deviceIntermediate =>
        if isParameter b || isPrivate b then some message
        else if isFinal b then some deviceContent
        else none
    | deviceContent => if b = 0x9C then some ground else none
    | systemCommand => if b = 0x07 then some ground else none
    | message => if b = 0x9C then some ground else none

def next (s : State) (b : UInt8) : State := (s.next? b).getD s

def obeysControls : State → Bool
  | ground | escape | escapeIntermediate => true
  | controlEntry | controlParameter | controlIntermediate | controlIgnore => true
  | _ => false

def shows (s : State) (b : UInt8) : Bool :=
  (s == ground && between 0x20 0x7E b) ||
    (s.obeysControls && (b == 0x09 || b == 0x0A || b == 0x0C || b == 0x0D))

def startsChar (s : State) (b : UInt8) : Bool := s == ground && between 0xC2 0xF4 b

end State

/-- Leaves out what is not shown. While text is shown it is read as if outside of any sequence,
and the state that was left takes over at the first octet that is not shown; only a character of
several octets clears it. The number counts octets of such a character that are still to come. -/
def strip (state : State) (showing : Bool) : Nat → Bytes → Bytes
  | _, [] => []
  | k + 1, b :: rest => b :: strip (if k = 0 then .ground else state) true k rest
  | 0, b :: rest =>
      let here := if showing then .ground else state
      if here.startsChar b then b :: strip state true (Text.continuationCount b) rest
      else if here.shows b then b :: strip state true 0 rest
      else
        let left := if showing then (State.ground.next? b).getD state else state
        strip (left.next b) false 0 rest

def ofStyled (octets : Bytes) : Bytes := strip .ground false 0 octets

end MethodSignature.Color.Plain
