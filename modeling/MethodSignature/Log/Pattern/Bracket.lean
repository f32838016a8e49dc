import MethodSignature.Log.Pattern.Basic

/-!
Sets of characters in brackets: characters, ranges, named classes and further brackets, with
operators between them. Only how deep a set nests is kept.
-/

namespace MethodSignature.Log.Pattern

/-- A bracket that is being read: how deep its members since the last operator nest, and how deep
what stands before that operator does. -/
structure Bracket where
  before : Option Nat := none
  members : List Nat := []

namespace Bracket

def add (b : Bracket) (depth : Nat) : Bracket := { b with members := depth :: b.members }

def depth (b : Bracket) : Nat :=
  match b.before with
  | none => depthOf b.members
  | some before => max before (depthOf b.members) + 1

def operator (b : Bracket) : Bracket := { before := some b.depth }

end Bracket

/-- What may come next in a bracket: right after its start, after a negation or after leading
hyphens some characters mean something else. -/
inductive Phase where
  | opened
  | negated
  | hyphens
  | inside
deriving DecidableEq

def isMember (m : Mode) : Atom → Bool
  | .literal c _ => if m.unicode then !m.foldsCase else c.toNat < 0x80
  | .category negated => (Atom.category negated).isAllowed m
  | _ => false

def member? (m : Mode) : Text → Option (Atom × Text)
  | [] => none
  | '\\' :: s => escape? m s
  | c :: s => some (.literal c false, s)

/-- The character that decides whether a hyphen before it makes a range. White space in front of
it does not count, nor does the sign of a comment. -/
def afterHyphen? (m : Mode) (s : Text) : Option Char :=
  if m.spaced then
    let seen :=
      match s.dropWhile Text.isBlankChar with
      | '#' :: comment => comment.dropWhile Text.isBlankChar
      | rest => rest
    seen.head? <|> s.head?
  else s.head?

def range? (m : Mode) (s : Text) : Option Text := do
  let (first, rest) ← member? m s
  match m.skip rest with
  | '-' :: after =>
      if afterHyphen? m after = some ']' ∨ afterHyphen? m after = some '-' then
        if isMember m first then some ('-' :: after) else none
      else
        let (last, rest) ← member? m (m.skip after)
        match first, last with
        | .literal low _, .literal high _ =>
            if low ≤ high ∧ isMember m first ∧ isMember m last then some rest else none
        | _, _ => none
  | rest => if isMember m first then some rest else none

def classNames : List Text :=
  ["alnum", "alpha", "ascii", "blank", "cntrl", "digit", "graph", "lower", "print", "punct",
    "space", "upper", "word", "xdigit"]

def namedClass? : Text → Option (Bool × Text)
  | ':' :: s =>
      let (negated, s) :=
        match s with
        | '^' :: rest => (true, rest)
        | _ => (false, s)
      match s.dropWhile (· != ':') with
      | ':' :: ']' :: rest =>
          if classNames.contains (s.takeWhile (· != ':')) then some (negated, rest) else none
      | _ => none
  | _ => none

def setOperator? : Text → Option Text
  | '&' :: '&' :: s => some s
  | '-' :: '-' :: s => some s
  | '~' :: '~' :: s => some s
  | _ => none

/-- Reads a set after its opening bracket: how deep it nests, and what follows it. No set of octets
is negated, since it would match some that are not part of a character, and no set of characters
has members when letters match in either case. -/
def bracket? (m : Mode) :
    Nat → Phase → Bracket → List Bracket → Text → Option (Nat × Text)
  | 0, _, _, _, _ => none
  | n + 1, phase, b, outer, s =>
      match m.skip s with
      | [] => none
      | c :: rest =>
          if phase = .opened ∧ c = '^' then
            if m.unicode then bracket? m n .negated b outer rest else none
          else if phase ≠ .inside ∧ c = '-' then
            if isMember m (.literal c false) then bracket? m n .hyphens (b.add 0) outer rest
            else none
          else if (phase = .opened ∨ phase = .negated) ∧ c = ']' then
            if isMember m (.literal c false) then bracket? m n .inside (b.add 0) outer rest
            else none
          else if c = ']' then
            match outer with
            | [] => some (b.depth + 1, rest)
            | enclosing :: outer =>
                bracket? m n .inside (enclosing.add (b.depth + 1)) outer rest
          else if c = '[' then
            match namedClass? rest with
            | some (negated, rest) =>
                if if m.unicode then m.foldsCase else negated then none
                else bracket? m n .inside (b.add 0) outer rest
            | none => bracket? m n .opened {} (b :: outer) rest
          else
            match setOperator? (c :: rest) with
            | some rest => bracket? m n .inside b.operator outer rest
            | none =>
                match range? m (c :: rest) with
                | some rest => bracket? m n .inside (b.add 0) outer rest
                | none => none

end MethodSignature.Log.Pattern
