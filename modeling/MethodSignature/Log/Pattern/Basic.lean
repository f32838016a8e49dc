import MethodSignature.Text.Blank
import MethodSignature.Text.Digit

/-!
Parts of a pattern that stand for one character or one position. A pattern is a regular
expression; of Unicode it knows the characters but none of their properties, so that classes of
characters, word boundaries and letters in either case are there only for octets.
-/

namespace MethodSignature.Log.Pattern

open Text (digitValue?)

structure Mode where
  spaced : Bool := false
  unicode : Bool := true
  foldsCase : Bool := false
deriving DecidableEq

def dropSpaced (inComment : Bool) : Text → Text
  | [] => []
  | c :: s =>
      if inComment then dropSpaced (c != '\n') s
      else if Text.isBlankChar c then dropSpaced false s
      else if c = '#' then dropSpaced true s
      else c :: s

def Mode.skip (m : Mode) (s : Text) : Text := if m.spaced then dropSpaced false s else s

inductive Atom where
  /-- One character; two hexadecimal digits write an octet rather than a character. -/
  | literal (c : Char) (isOctet : Bool)
  | any
  | category (negated : Bool)
  | edge
  | wordEdge
deriving DecidableEq

namespace Atom

/-- The mode can express the atom, and it matches no octet that is not part of a character. -/
def isAllowed (m : Mode) : Atom → Bool
  | literal c isOctet => if m.unicode then !m.foldsCase else !isOctet || c.toNat < 0x80
  | any => m.unicode
  | category negated => !m.unicode && !negated
  | edge => true
  | wordEdge => !m.unicode

end Atom

def hexDigits? (m : Mode) : Nat → Text → Option (List Nat × Text)
  | 0, s => some ([], s)
  | _ + 1, [] => none
  | n + 1, c :: s => do
      let digit ← digitValue? c
      let (digits, rest) ← hexDigits? m n (m.skip s)
      return (digit :: digits, rest)

def hexChar? (m : Mode) (count : Nat) (s : Text) : Option (Atom × Text) := do
  let (digits, rest) ← hexDigits? m count (m.skip s)
  return (.literal (← Text.charOf? digits) (count == 2), rest)

/-- Punctuation, white space and controls of ASCII stand for themselves after a backslash, but
for the two that mark an end of a word. -/
def isEscapable (c : Char) : Bool :=
  c.toNat < 0x80 && !c.isAlphanum && c != '<' && c != '>'

def control? : Char → Option Char
  | 'a' => some '\x07'
  | 't' => some '\t'
  | 'n' => some '\n'
  | 'v' => some '\x0b'
  | 'f' => some '\x0c'
  | 'r' => some '\r'
  | _ => none

/-- Reads an escape after its backslash. There is no reference to a group and no class of Unicode
characters. -/
def escape? (m : Mode) : Text → Option (Atom × Text)
  | [] => none
  | 'x' :: s => hexChar? m 2 s
  | 'u' :: s => hexChar? m 4 s
  | 'U' :: s => hexChar? m 8 s
  | c :: s =>
      if isEscapable c then some (.literal c false, s)
      else if ['d', 's', 'w'].contains c then some (.category false, s)
      else if ['D', 'S', 'W'].contains c then some (.category true, s)
      else if ['A', 'z'].contains c then some (.edge, s)
      else if ['b', 'B', '<', '>'].contains c then some (.wordEdge, s)
      else (control? c).map (.literal · false, s)

def atom? (m : Mode) : Text → Option (Atom × Text)
  | [] => none
  | '\\' :: s => escape? m s
  | '.' :: s => some (.any, s)
  | '^' :: s => some (.edge, s)
  | '$' :: s => some (.edge, s)
  | c :: s => some (.literal c false, s)

/-- How deep parts nest that stand side by side: a part alone counts as itself, and several as one
level more than their deepest. -/
def depthOf : List Nat → Nat
  | [] => 0
  | [depth] => depth
  | depths => depths.foldl max 0 + 1

end MethodSignature.Log.Pattern
