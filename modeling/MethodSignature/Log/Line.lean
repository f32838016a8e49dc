import MethodSignature.Event
import MethodSignature.Text.Quoted

/-!
Lines of a log: time, level, message and fields. In color each part has its own style. Control
characters that a terminal would obey are made visible in messages.
-/

namespace MethodSignature.Log

/-- Writes a character that a terminal would obey as an escape. -/
def visibleChar (c : Char) : Text :=
  if c = '\x1b' then "\\x1b"
  else if c = '\x07' then "\\x07"
  else if c = '\x08' then "\\x08"
  else if c = '\x0c' then "\\x0c"
  else if c = '\x7f' then "\\x7f"
  else if 0x80 ≤ c.toNat ∧ c.toNat ≤ 0x9F then Text.codePointEscape c
  else [c]

def visible (s : Text) : Text := s.flatMap visibleChar

def fieldValue : Event.Field → Text
  | .count n => Text.ofNat n
  | .text s => Text.quoted s
  | .shown s => visible s

def levelStyle : Level → Text
  | .error => "31"
  | .warn => "33"
  | .info => "32"
  | .debug => "34"
  | .trace => "35"

def styled (colored : Bool) (style : Text) (s : Text) : Text :=
  if colored then "\x1b[" ++ style ++ "m" ++ s ++ "\x1b[0m" else s

def levelColumn (level : Level) : Text :=
  List.replicate (5 - level.name.length) ' ' ++ level.name

def field (colored : Bool) (named : Text × Event.Field) : Text :=
  " " ++ styled colored "3" named.1 ++ styled colored "2" "=" ++ fieldValue named.2

def line (colored : Bool) (time : Text) (e : Event) : Text :=
  styled colored "2" time ++ " " ++ styled colored (levelStyle e.level) (levelColumn e.level) ++
    " " ++ visible e.message ++ e.fields.flatMap (field colored) ++ "\n"

end MethodSignature.Log
