import MethodSignature.Text.Basic

/-!
Color on a terminal. Painting wraps text in an opening sequence and a reset, and opens again
after every reset that the text itself holds.
-/

namespace MethodSignature.Color

inductive Mode where
  | auto
  | always
  | never
deriving DecidableEq, Repr

namespace Mode

def name : Mode → Text
  | auto => "auto"
  | always => "always"
  | never => "never"

def ofName? (s : Text) : Option Mode :=
  [auto, always, never].find? (·.name = s)

/-- Output never goes to an interactive terminal, so only `always` turns color on. -/
def enabled : Mode → Bool
  | always => true
  | _ => false

/-- What a terminal supports says nothing about a file: there `auto` becomes `never`. -/
def forDestination (mode : Mode) (toFile : Bool) : Mode :=
  if toFile ∧ mode = auto then never else mode

end Mode

inductive Style where
  | success
  | error
  | header
  | dim
deriving DecidableEq, Repr

def Style.opening : Style → Text
  | success => "\x1b[32m"
  | error => "\x1b[31m"
  | header => "\x1b[1;34m"
  | dim => "\x1b[2m"

def reset : Text := "\x1b[0m"

def reopen (opening : Text) : Text → Text
  | '\x1b' :: '[' :: '0' :: 'm' :: s => reset ++ opening ++ reopen opening s
  | c :: s => c :: reopen opening s
  | [] => []

theorem length_le_length_reopen (opening s : Text) : s.length ≤ (reopen opening s).length := by
  fun_induction reopen opening s with
  | case1 s ih =>
    have reset : reset.length = 4 := rfl
    simp only [List.length_append, List.length_cons, reset]
    omega
  | case2 c s _ ih =>
    simp only [List.length_cons]
    omega
  | case3 => exact Nat.le_refl _

def Style.paint (style : Style) (s : Text) : Text :=
  style.opening ++ reopen style.opening s ++ reset

theorem Style.paint_ne (style : Style) (s : Text) : style.paint s ≠ s := by
  intro same
  have longer := length_le_length_reopen style.opening s
  have reset : reset.length = 4 := rfl
  have length := congrArg List.length same
  rw [paint, List.length_append, List.length_append, reset] at length
  omega

def Style.apply (style : Style) (on : Bool) (s : Text) : Text :=
  if on then style.paint s else s

end MethodSignature.Color
