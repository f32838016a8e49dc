import MethodSignature.Toml.Number

/-!
Strings of a TOML document: basic strings with escapes and literal strings without, each on one
line or over several. A reader gets the text after the opening quotes and returns the content and
what follows the closing quotes.
-/

namespace MethodSignature.Toml

open Text (digitValue?)

/-- Control characters other than tab stand in no string and no comment. -/
def isPlain (c : Char) : Bool := c == '\t' || (0x20 ≤ c.toNat && c.toNat != 0x7F)

def hexChar? (n : Nat) (s : Text) : Option Char := do
  let digits ← (s.take n).mapM digitValue?
  if digits.length = n then Text.charOf? digits else none

def escape? : Text → Option (Char × Nat)
  | 'b' :: _ => some ('\x08', 1)
  | 't' :: _ => some ('\t', 1)
  | 'n' :: _ => some ('\n', 1)
  | 'f' :: _ => some ('\x0c', 1)
  | 'r' :: _ => some ('\r', 1)
  | 'e' :: _ => some ('\x1b', 1)
  | '"' :: _ => some ('"', 1)
  | '\\' :: _ => some ('\\', 1)
  | 'x' :: s => (hexChar? 2 s).map (·, 3)
  | 'u' :: s => (hexChar? 4 s).map (·, 5)
  | 'U' :: s => (hexChar? 8 s).map (·, 9)
  | _ => none

def withChar (c : Char) : Text × Text → Text × Text
  | (content, rest) => (c :: content, rest)

def basic? : Nat → Text → Option (Text × Text)
  | _, [] => none
  | k + 1, _ :: s => basic? k s
  | 0, c :: s =>
      if c = '"' then some ([], s)
      else if c = '\\' then
        match escape? s with
        | some (e, used) => (basic? used s).map (withChar e)
        | none => none
      else if isPlain c then (basic? 0 s).map (withChar c)
      else none

def literal? : Text → Option (Text × Text)
  | [] => none
  | c :: s =>
      if c = '\x27' then some ([], s)
      else if isPlain c then (literal? s).map (withChar c)
      else none

def isSpace (c : Char) : Bool := c == ' ' || c == '\t'

def newline? : Text → Option Text
  | '\n' :: s => some s
  | '\r' :: '\n' :: s => some s
  | _ => none

def dropNewline (s : Text) : Text := (newline? s).getD s

def fillerLength : Text → Nat
  | ' ' :: s => 1 + fillerLength s
  | '\t' :: s => 1 + fillerLength s
  | '\n' :: s => 1 + fillerLength s
  | '\r' :: '\n' :: s => 2 + fillerLength s
  | _ => 0

/-- How many characters a backslash at the end of a line takes with it: the rest of its line, and
all white space and line ends that follow. -/
def continuation? (s : Text) : Option Nat :=
  match newline? (s.dropWhile isSpace) with
  | some _ => some (fillerLength s)
  | none => none

/-- Three quotes close a string of several lines; up to two more in front of them are content. -/
def closing? (quote : Char) (s : Text) : Option (Text × Text) :=
  let run := (s.takeWhile (· == quote)).length
  if run < 3 then none
  else
    let extra := min (run - 3) 2
    some (List.replicate extra quote, s.drop (3 + extra))

def multilineBasic? : Nat → Text → Option (Text × Text)
  | _, [] => none
  | k + 1, _ :: s => multilineBasic? k s
  | 0, c :: s =>
      match closing? '"' (c :: s) with
      | some closed => some closed
      | none =>
          if c = '\\' then
            match escape? s with
            | some (e, used) => (multilineBasic? used s).map (withChar e)
            | none =>
                match continuation? s with
                | some used => multilineBasic? used s
                | none => none
          else if isPlain c ∨ (newline? (c :: s)).isSome then
            (multilineBasic? 0 s).map (withChar c)
          else none

def multilineLiteral? : Text → Option (Text × Text)
  | [] => none
  | c :: s =>
      match closing? '\x27' (c :: s) with
      | some closed => some closed
      | none =>
          if isPlain c ∨ (newline? (c :: s)).isSome then
            (multilineLiteral? s).map (withChar c)
          else none

/-- Reads a string value, opening quotes included. A line end right after the quotes that open
several lines is no content. -/
def string? : Text → Option (Text × Text)
  | '"' :: '"' :: '"' :: s => multilineBasic? 0 (dropNewline s)
  | '\x27' :: '\x27' :: '\x27' :: s => multilineLiteral? (dropNewline s)
  | '"' :: s => basic? 0 s
  | '\x27' :: s => literal? s
  | _ => none

end MethodSignature.Toml
