import MethodSignature.Text.Basic

/-!
JSON documents and their written form, indented by two spaces a level. Objects keep their fields in
order.
-/

namespace MethodSignature

inductive Json where
  | null
  | string (s : Text)
  | list (items : List Json)
  | object (fields : List (Text × Json))

namespace Json

/-- Quotes, backslashes and characters below U+0020 are escaped; all else stands for itself. -/
def escapeChar (c : Char) : Text :=
  if c = '"' then ['\\', '"']
  else if c = '\\' then ['\\', '\\']
  else if c = '\x08' then ['\\', 'b']
  else if c = '\t' then ['\\', 't']
  else if c = '\n' then ['\\', 'n']
  else if c = '\x0c' then ['\\', 'f']
  else if c = '\r' then ['\\', 'r']
  else if c.toNat < 0x20 then
    ['\\', 'u', '0', '0', Nat.digitChar (c.toNat / 16), Nat.digitChar (c.toNat % 16)]
  else [c]

def quote (s : Text) : Text := '"' :: s.flatMap escapeChar ++ ['"']

def newline (depth : Nat) : Text := '\n' :: List.replicate (2 * depth) ' '

mutual

def pretty (depth : Nat) : Json → Text
  | null => "null"
  | string s => quote s
  | list [] => "[]"
  | list (item :: items) =>
      '[' :: newline (depth + 1) ++ pretty (depth + 1) item ++ prettyItems (depth + 1) items ++
        newline depth ++ [']']
  | object [] => "\x7b\x7d"
  | object ((key, value) :: fields) =>
      '\x7b' :: newline (depth + 1) ++ quote key ++ ": " ++ pretty (depth + 1) value ++
        prettyFields (depth + 1) fields ++ newline depth ++ ['\x7d']

def prettyItems (depth : Nat) : List Json → Text
  | [] => []
  | item :: items => ',' :: newline depth ++ pretty depth item ++ prettyItems depth items

def prettyFields (depth : Nat) : List (Text × Json) → Text
  | [] => []
  | (key, value) :: fields =>
      ',' :: newline depth ++ quote key ++ ": " ++ pretty depth value ++ prettyFields depth fields

end

end Json

end MethodSignature
