import MethodSignature.Toml.DateTime
import MethodSignature.Toml.Quoted

/-!
Grammar of a TOML document: a list of statements, each an assignment, a table header or a header
of one more table of an array. Whether the statements agree with each other is not asked here.
-/

namespace MethodSignature.Toml

open Text (isDigit)

inductive Scalar where
  | string (s : Text)
  /-- An integer; a token in its place may stand for no number. -/
  | integer (n : Option Int)
  | float (d : Decimal)
  | bool (b : Bool)
  | dateTime (d : DateTime)
deriving DecidableEq

structure KeyPath where
  parents : List Text
  key : Text
deriving DecidableEq

inductive Expr where
  | scalar (s : Scalar)
  | array (items : List Expr)
  | inline (fields : List (KeyPath × Expr))

inductive Statement where
  | assign (path : KeyPath) (value : Expr)
  | table (path : KeyPath)
  | tableOfArray (path : KeyPath)

def maxDepth : Nat := 80

def maxKeys : Nat := 80

/-! White space, comments and line ends -/

def dropSpace (s : Text) : Text := s.dropWhile isSpace

def endOfLine? (s : Text) : Option Text :=
  let rest := dropSpace s
  let rest :=
    match rest with
    | '#' :: comment => comment.dropWhile isPlain
    | _ => rest
  match rest with
  | [] => some []
  | _ => newline? rest

def dropFiller? (inComment : Bool) : Text → Option Text
  | [] => some []
  | '\n' :: s => dropFiller? false s
  | '\r' :: '\n' :: s => dropFiller? false s
  | c :: s =>
      if inComment then
        if isPlain c then dropFiller? true s else none
      else if isSpace c then dropFiller? false s
      else if c = '#' then dropFiller? true s
      else some (c :: s)

/-! Keys -/

def isBare (c : Char) : Bool :=
  isDigit c || ('a' ≤ c && c ≤ 'z') || ('A' ≤ c && c ≤ 'Z') || c == '_' || c == '-'

def key? : Text → Option (Text × Text)
  | '"' :: s => basic? 0 s
  | '\x27' :: s => literal? s
  | s =>
      let bare := s.takeWhile isBare
      if bare.isEmpty then none else some (bare, s.dropWhile isBare)

def KeyPath.cons (key : Text) (path : KeyPath) : KeyPath := ⟨key :: path.parents, path.key⟩

def keys? : Nat → Text → Option (KeyPath × Text)
  | 0, _ => none
  | n + 1, s => do
      let (key, rest) ← key? s
      match dropSpace rest with
      | '.' :: rest =>
          let (path, rest) ← keys? n (dropSpace rest)
          return (path.cons key, rest)
      | rest => return (⟨[], key⟩, rest)

def keyPath? (s : Text) : Option (KeyPath × Text) := keys? maxKeys s

/-! Values -/

def endsToken (c : Char) : Bool :=
  ['=', ',', '[', ']', '\x7b', '\x7d', '#', ' ', '\t', '\r', '\n'].contains c

/-- The text of a scalar that is not a string. A space belongs to it only between a date and a
digit. -/
def token (s : Text) : Text × Text :=
  let run := s.takeWhile (!endsToken ·)
  let rest := s.dropWhile (!endsToken ·)
  match rest with
  | ' ' :: d :: more =>
      if isDigit d ∧ (date? run).any (·.2.isEmpty) then
        (run ++ ' ' :: (d :: more).takeWhile (!endsToken ·), (d :: more).dropWhile (!endsToken ·))
      else (run, rest)
  | _ => (run, rest)

def looksLikeDateTime (s : Text) : Bool :=
  ((sign s).2.dropWhile isDigit).head?.any fun c => c == '-' || c == ':'

def scalar? (s : Text) : Option Scalar :=
  if s = "true" then some (.bool true)
  else if s = "false" then some (.bool false)
  else if looksLikeDateTime s then (DateTime.read? s).map .dateTime
  else
    match Decimal.read? s with
    | some d => some (.float d)
    | none => (integer? s).map .integer

def items? (value? : Text → Option (Expr × Text)) : Nat → Text → Option (List Expr × Text)
  | 0, _ => none
  | n + 1, s => do
      match ← dropFiller? false s with
      | ']' :: rest => return ([], rest)
      | start =>
          let (item, rest) ← value? start
          match ← dropFiller? false rest with
          | ',' :: rest =>
              let (items, rest) ← items? value? n rest
              return (item :: items, rest)
          | ']' :: rest => return ([item], rest)
          | _ => none

def assignment? (skip : Text → Option Text) (value? : Text → Option (Expr × Text)) (s : Text) :
    Option (KeyPath × Expr × Text) := do
  let (path, rest) ← keyPath? s
  let rest ← expect? '=' (← skip rest)
  let (value, rest) ← value? (← skip rest)
  return (path, value, rest)

def fields? (value? : Text → Option (Expr × Text)) :
    Nat → Text → Option (List (KeyPath × Expr) × Text)
  | 0, _ => none
  | n + 1, s => do
      match ← dropFiller? false s with
      | '\x7d' :: rest => return ([], rest)
      | start =>
          let (path, value, rest) ← assignment? (dropFiller? false) value? start
          match ← dropFiller? false rest with
          | ',' :: rest =>
              let (fields, rest) ← fields? value? n rest
              return ((path, value) :: fields, rest)
          | '\x7d' :: rest => return ([(path, value)], rest)
          | _ => none

def value? (depth : Nat) (s : Text) : Option (Expr × Text) :=
  match s with
  | [] => none
  | c :: rest =>
      if c = '"' ∨ c = '\x27' then
        (string? s).map fun (content, rest) => (.scalar (.string content), rest)
      else if c = '[' then
        match depth with
        | 0 => none
        | d + 1 => (items? (value? d) (rest.length + 1) rest).map fun (items, rest) =>
            (.array items, rest)
      else if c = '\x7b' then
        match depth with
        | 0 => none
        | d + 1 => (fields? (value? d) (rest.length + 1) rest).map fun (fields, rest) =>
            (.inline fields, rest)
      else
        let (text, rest) := token s
        (scalar? text).map fun scalar => (.scalar scalar, rest)

/-! Statements -/

def header? (closing : Text) (s : Text) : Option (KeyPath × Text) := do
  let (path, rest) ← keyPath? (dropSpace s)
  if closing.isPrefixOf rest then some (path, rest.drop closing.length) else none

def statement? : Text → Option (Statement × Text)
  | '[' :: '[' :: s => (header? [']', ']'] s).map fun (path, rest) => (.tableOfArray path, rest)
  | '[' :: s => (header? [']'] s).map fun (path, rest) => (.table path, rest)
  | s => (assignment? (some ∘ dropSpace) (value? maxDepth) s).map fun (path, value, rest) =>
      (.assign path value, rest)

def statements? : Nat → Text → Option (List Statement)
  | 0, _ => none
  | n + 1, s =>
      match endOfLine? s with
      | some [] => some []
      | some rest => statements? n rest
      | none => do
          let (statement, rest) ← statement? (dropSpace s)
          let rest ← endOfLine? rest
          if rest.isEmpty then return [statement]
          return statement :: (← statements? n rest)

def document? (s : Text) : Option (List Statement) :=
  let body :=
    match s with
    | '\uFEFF' :: rest => rest
    | _ => s
  statements? (body.length + 1) body

end MethodSignature.Toml
