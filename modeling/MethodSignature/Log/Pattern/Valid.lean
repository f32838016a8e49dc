import MethodSignature.Log.Pattern.Bracket
import MethodSignature.Text.Alphanumeric

/-!
Which texts are patterns. A pattern is read once, with the groups that are open on a stack; what
it matches is not asked here.
-/

namespace MethodSignature.Log.Pattern

structure Piece where
  depth : Nat
  repeatable : Bool

/-- A group that is being read: the flags in force, how deep the alternatives before nest, and the
parts of this one, the last part first. -/
structure Level where
  mode : Mode := {}
  alternatives : List Nat := []
  pieces : List Piece := []

namespace Level

def add (l : Level) (p : Piece) : Level := { l with pieces := p :: l.pieces }

def branchDepth (l : Level) : Nat := depthOf (l.pieces.map (·.depth))

def nextBranch (l : Level) : Level :=
  { l with alternatives := l.branchDepth :: l.alternatives, pieces := [] }

def depth (l : Level) : Nat := depthOf (l.branchDepth :: l.alternatives)

def repeat? (l : Level) : Option Level :=
  match l.pieces with
  | [] => none
  | p :: pieces =>
      if p.repeatable then some { l with pieces := ⟨p.depth + 1, true⟩ :: pieces } else none

end Level

def maxNesting : Nat := 250

/-- Turns a flag on or off. Of the flags some have no say in what is a pattern. -/
def Mode.set (m : Mode) (flag : Char) (on : Bool) : Mode :=
  if flag = 'x' then { m with spaced := on }
  else if flag = 'u' then { m with unicode := on }
  else if flag = 'i' then { m with foldsCase := on }
  else m

/-- Reads flags up to a colon or a closing parenthesis: the mode they lead to, whether there were
any, and what follows with the end mark first. No flag comes twice, and a minus sign, which turns
off those after it, has some after it. -/
def flags? (seen : List Char) (m : Mode) : Text → Option (Mode × Bool × Text)
  | [] => none
  | c :: s =>
      if c = ':' ∨ c = ')' then
        if seen.head? = some '-' then none else some (m, !seen.isEmpty, c :: s)
      else if ['i', 'm', 's', 'U', 'u', 'R', 'x', '-'].contains c && !seen.contains c then
        flags? (c :: seen) (m.set c (!seen.contains '-')) s
      else none

def isGroupName : Text → Bool
  | [] => false
  | c :: s =>
      (c == '_' || Text.isAlphabetic c) &&
        s.all fun d => ['_', '.', '[', ']'].contains d || Text.isAlphanumeric d

inductive Opening where
  | group (mode : Mode) (name : Option Text)
  | flags (mode : Mode)

def groupName? (m : Mode) (s : Text) : Option (Opening × Text) :=
  let name := s.takeWhile (· != '>')
  match s.dropWhile (· != '>') with
  | _ :: rest => if isGroupName name then some (.group m (some name), rest) else none
  | [] => none

def opening? (m : Mode) (s : Text) : Option (Opening × Text) :=
  match m.skip s with
  | '?' :: 'P' :: '<' :: rest => groupName? m rest
  | '?' :: '<' :: rest => groupName? m rest
  | '?' :: rest =>
      match flags? [] m rest with
      | some (mode, _, ':' :: rest) => some (.group mode none, rest)
      | some (mode, true, ')' :: rest) => some (.flags mode, rest)
      | _ => none
  | rest => some (.group m none, rest)

def dropLazy : Text → Text
  | '?' :: s => s
  | s => s

/-- Reads a pattern in the innermost of some open groups: how deep it nests. The names are those
of the groups so far, which must differ. A number of repetitions cannot be given. -/
def nesting? : Nat → List Text → Level → List Level → Text → Option Nat
  | 0, _, _, _, _ => none
  | n + 1, names, l, outer, s =>
      match l.mode.skip s with
      | [] => if outer.isEmpty then some l.depth else none
      | '(' :: rest =>
          match opening? l.mode rest with
          | some (.flags mode, rest) =>
              nesting? n names ({ l with mode := mode }.add ⟨0, false⟩) outer rest
          | some (.group mode none, rest) => nesting? n names { mode := mode } (l :: outer) rest
          | some (.group mode (some name), rest) =>
              if names.contains name then none
              else nesting? n (name :: names) { mode := mode } (l :: outer) rest
          | none => none
      | ')' :: rest =>
          match outer with
          | [] => none
          | enclosing :: outer =>
              nesting? n names (enclosing.add ⟨l.depth + 1, true⟩) outer rest
      | '|' :: rest => nesting? n names l.nextBranch outer rest
      | '[' :: rest =>
          match bracket? l.mode (rest.length + 1) .opened {} [] rest with
          | some (depth, rest) => nesting? n names (l.add ⟨depth, true⟩) outer rest
          | none => none
      | '\x7b' :: _ => none
      | c :: rest =>
          if ['?', '*', '+'].contains c then
            match l.repeat? with
            | some l => nesting? n names l outer (dropLazy rest)
            | none => none
          else
            match atom? l.mode (c :: rest) with
            | some (atom, rest) =>
                if atom.isAllowed l.mode then nesting? n names (l.add ⟨0, true⟩) outer rest
                else none
            | none => none

def isValid (s : Text) : Bool := (nesting? (s.length + 1) [] {} [] s).any (· ≤ maxNesting)

/-! Numbers, which need not be patterns -/

def dropSign : Text → Text
  | '+' :: s => s
  | '-' :: s => s
  | s => s

def isExponent : Text → Bool
  | [] => true
  | c :: s => (c == 'e' || c == 'E') && !(dropSign s).isEmpty && (dropSign s).all Text.isDigit

def isDecimal (s : Text) : Bool :=
  let rest := s.dropWhile Text.isDigit
  match rest with
  | '.' :: fraction =>
      (s.head? != some '.' || fraction.head?.any Text.isDigit) &&
        isExponent (fraction.dropWhile Text.isDigit)
  | _ => s.head?.any Text.isDigit && isExponent rest

def isNumber (s : Text) : Bool :=
  let word := Text.lowerCase (dropSign s)
  word = "inf" || word = "infinity" || word = "nan" || isDecimal (dropSign s)

def isValue (s : Text) : Bool := isNumber s || isValid s

end MethodSignature.Log.Pattern
