import MethodSignature.Split
import MethodSignature.Text.Digit

/-!
Numbers of a TOML document. Digits may be grouped by single underscores; a decimal number has no
leading zero. A float keeps its decimal form, since the only question asked of it is whether a
double can hold it. A token may be in the place of an integer without standing for a number, which
matters only to one who asks for its value.
-/

namespace MethodSignature.Toml

open Text (isDigit isHexDigit digitValue? digitBelow? valueOf)

/-- Underscores stand between digits: every group after one starts with a digit, and every group
before one ends with a digit or is a single character, such as a sign. -/
def isGrouped (isDigit : Char → Bool) (s : Text) : Bool :=
  match Split.pieces (· == '_') s with
  | [] => true
  | [_] => true
  | first :: others =>
      !first.isEmpty && others.all (fun group => group.head?.any isDigit) &&
        (first :: others.dropLast).all fun group =>
          group.length == 1 || group.getLast?.any isDigit

def natural? (base : Nat) (s : Text) : Option Nat := do
  let digits ← (s.filter (· != '_')).mapM (digitBelow? base)
  if digits.isEmpty then none else some (valueOf base digits)

def sign (s : Text) : Bool × Text :=
  match s with
  | '-' :: rest => (true, rest)
  | '+' :: rest => (false, rest)
  | _ => (false, s)

def signed (negative : Bool) (n : Nat) : Int := if negative then -n else n

/-- An integer in a marked base, which takes no sign. A mark without digits is a token without a
value. -/
def radixInteger? (base : Nat) (digits : Text) : Option (Option Int) :=
  if digits.all (fun c => c == '_' || (digitBelow? base c).isSome) && isGrouped isHexDigit digits
  then some ((natural? base digits).map Int.ofNat)
  else none

def marksFloat (c : Char) : Bool := c == '.' || c == 'e' || c == 'E'

/-- An integer in base ten. Once an underscore follows its first digits, the groups need only
start and end like numbers of base sixteen, and the value decides about the rest. -/
def decimalInteger? (s : Text) : Option (Option Int) :=
  let (negative, body) := sign s
  let hasLeadingZero := body.head? == some '0' && body != ['0']
  let isUngrouped := !body.isEmpty && body.all isDigit
  let startsGroups := (body.dropWhile isDigit).head? == some '_' && !body.any marksFloat
  if !hasLeadingZero && (isUngrouped || startsGroups && isGrouped isHexDigit s) then
    some ((natural? 10 body).map (signed negative))
  else none

def integer? (s : Text) : Option (Option Int) :=
  match s with
  | '0' :: 'x' :: digits => radixInteger? 16 digits
  | '0' :: 'o' :: digits => radixInteger? 8 digits
  | '0' :: 'b' :: digits => radixInteger? 2 digits
  | _ => decimalInteger? s

inductive Decimal where
  | finite (negative : Bool) (digits : List Nat) (exponent : Int)
  | infinite (negative : Bool)
  | nan
deriving DecidableEq

namespace Decimal

def digits? (s : Text) : Option (List Nat × Text) :=
  let isInRun := fun c => isDigit c || c == '_'
  let digits := (s.takeWhile isInRun).filterMap digitValue?
  if digits.isEmpty then none else some (digits, s.dropWhile isInRun)

def fraction? (s : Text) : Option (List Nat × Text) :=
  match s with
  | '.' :: rest => digits? rest
  | _ => some ([], s)

def exponent? : Text → Option Int
  | [] => some 0
  | c :: s =>
      if c = 'e' ∨ c = 'E' then
        let (negative, body) := sign s
        match digits? body with
        | some (digits, []) => some (signed negative (valueOf 10 digits))
        | _ => none
      else none

def read? (s : Text) : Option Decimal :=
  let (negative, body) := sign s
  if body = "inf" then some (.infinite negative)
  else if body = "nan" then some .nan
  else if body.any marksFloat && isGrouped isDigit s then do
    let (whole, rest) ← digits? body
    let (fraction, rest) ← fraction? rest
    let exponent ← exponent? rest
    if body.head? = some '0' ∧ 1 < whole.length then none
    else some (.finite negative (whole ++ fraction) (exponent - fraction.length))
  else none

def overflowBound : Nat := Nat.pow 2 1024 - Nat.pow 2 970

/-- A finite number too large for a double. The first two cases only spare the computation of
large powers. -/
def overflows : Decimal → Bool
  | finite _ digits exponent =>
      let n := valueOf 10 digits
      if n = 0 ∨ exponent + digits.length ≤ 300 then false
      else if exponent > 400 then true
      else if exponent ≥ 0 then n * Nat.pow 10 exponent.toNat ≥ overflowBound
      else n ≥ overflowBound * Nat.pow 10 (-exponent).toNat
  | infinite _ => false
  | nan => false

end Decimal

end MethodSignature.Toml
