import MethodSignature.Text.Basic
import MethodSignature.Text.Showable

/-!
Text in quotes for a log: what cannot be shown on its own is written as an escape.
-/

namespace MethodSignature.Text

def codePointEscape (c : Char) : Text := "\\u\x7b" ++ hex c.toNat ++ "\x7d"

def quoteChar (c : Char) : Text :=
  if c = '\x00' then ['\\', '0']
  else if c = '\t' then ['\\', 't']
  else if c = '\r' then ['\\', 'r']
  else if c = '\n' then ['\\', 'n']
  else if c = '\\' ∨ c = '"' then ['\\', c]
  else if isShowable c then [c]
  else codePointEscape c

def quoted (s : Text) : Text := '"' :: s.flatMap quoteChar ++ ['"']

end MethodSignature.Text
