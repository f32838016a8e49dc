import MethodSignature.Toml.Number

/-!
Date-times of a TOML document: a date, a time, or both, and then perhaps an offset. Seconds may
be left out, and a second may be a leap second.
-/

namespace MethodSignature.Toml

open Text (isDigit digitValue? valueOf)

structure Date where
  year : Nat
  month : Nat
  day : Nat
deriving DecidableEq

def daysInMonth (year month : Nat) : Nat :=
  if month = 2 then
    if year % 4 = 0 ∧ (year % 100 ≠ 0 ∨ year % 400 = 0) then 29 else 28
  else if month = 4 ∨ month = 6 ∨ month = 9 ∨ month = 11 then 30
  else 31

def Date.isValid (d : Date) : Bool :=
  1 ≤ d.month && d.month ≤ 12 && 1 ≤ d.day && d.day ≤ daysInMonth d.year d.month

structure Time where
  hour : Nat
  minute : Nat
  second : Nat
  fraction : List Nat
deriving DecidableEq

def Time.isValid (t : Time) : Bool := t.hour ≤ 23 && t.minute ≤ 59 && t.second ≤ 60

/-- A moment, or a date or a time alone. The offset is in minutes east. -/
structure DateTime where
  date : Option Date
  time : Option Time
  offset : Option Int
deriving DecidableEq

def fixedDigits? (n : Nat) (s : Text) : Option (Nat × Text) :=
  let run := s.takeWhile isDigit
  if run.length = n then
    some (valueOf 10 (run.filterMap digitValue?), s.drop n)
  else none

def expect? (c : Char) : Text → Option Text
  | [] => none
  | d :: s => if d = c then some s else none

def date? (s : Text) : Option (Date × Text) := do
  let (year, s) ← fixedDigits? 4 s
  let s ← expect? '-' s
  let (month, s) ← fixedDigits? 2 s
  let s ← expect? '-' s
  let (day, s) ← fixedDigits? 2 s
  let date : Date := ⟨year, month, day⟩
  if date.isValid then some (date, s) else none

def fraction? (s : Text) : Option (List Nat × Text) :=
  match s with
  | '.' :: rest =>
      let run := rest.takeWhile isDigit
      if run.isEmpty then none
      else some (run.filterMap digitValue?, rest.dropWhile isDigit)
  | _ => some ([], s)

def time? (s : Text) : Option (Time × Text) := do
  let (hour, s) ← fixedDigits? 2 s
  let s ← expect? ':' s
  let (minute, s) ← fixedDigits? 2 s
  let (second, fraction, s) ←
    match s with
    | ':' :: rest => do
        let (second, rest) ← fixedDigits? 2 rest
        let (fraction, rest) ← fraction? rest
        some (second, fraction, rest)
    | _ => some (0, [], s)
  let time : Time := ⟨hour, minute, second, fraction⟩
  if time.isValid then some (time, s) else none

def offset? (s : Text) : Option (Option Int) :=
  match s with
  | [] => some none
  | ['Z'] => some (some 0)
  | ['z'] => some (some 0)
  | c :: rest =>
      if c = '+' ∨ c = '-' then do
        let (hours, rest) ← fixedDigits? 2 rest
        let rest ← expect? ':' rest
        let (minutes, rest) ← fixedDigits? 2 rest
        if rest = [] ∧ hours ≤ 23 ∧ minutes ≤ 59 then
          some (some (signed (c == '-') (hours * 60 + minutes)))
        else none
      else none

def DateTime.read? (s : Text) : Option DateTime :=
  match date? s with
  | some (date, []) => some ⟨some date, none, none⟩
  | some (date, c :: rest) =>
      if c = 'T' ∨ c = 't' ∨ c = ' ' then do
        let (time, rest) ← time? rest
        return ⟨some date, some time, ← offset? rest⟩
      else none
  | none =>
      match time? s with
      | some (time, []) => some ⟨none, some time, none⟩
      | _ => none

end MethodSignature.Toml
