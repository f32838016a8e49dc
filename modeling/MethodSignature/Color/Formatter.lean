import MethodSignature.Color.Basic

/-!
Formatters and the switch that they share. Every formatter that is made sets the switch to its
own state, so of several formatters an enabled one paints only while the newest is enabled too.
-/

namespace MethodSignature.Color

structure Outlet where
  interactive : Bool := false
  kind : Option Text := none

def Outlet.showsColor (outlet : Outlet) : Bool :=
  outlet.kind ≠ some "dumb".toList && outlet.interactive

def Mode.enabledAt (outlet : Outlet) : Mode → Bool
  | auto => outlet.showsColor
  | always => true
  | never => false

theorem Mode.enabledAt_of_not_interactive {outlet : Outlet} (elsewhere : outlet.interactive = false)
    (mode : Mode) : mode.enabledAt outlet = mode.enabled := by
  cases mode with
  | auto => simp [enabledAt, Outlet.showsColor, elsewhere, enabled]
  | always => rfl
  | never => rfl

structure Formatter where
  enabled : Bool
deriving DecidableEq

def Formatter.ofMode (mode : Mode) (outlet : Outlet) : Formatter := ⟨mode.enabledAt outlet⟩

/-- The formatters made so far, in order, the shared switch, and where output goes. -/
structure Workshop where
  formatters : List Formatter := []
  switch : Bool := false
  outlet : Outlet := {}

namespace Workshop

def make (w : Workshop) (mode : Mode) : Workshop :=
  let formatter := Formatter.ofMode mode w.outlet
  { w with formatters := w.formatters ++ [formatter], switch := formatter.enabled }

def style (w : Workshop) (formatter : Formatter) (style : Style) (s : Text) : Text :=
  style.apply (formatter.enabled && w.switch) s

end Workshop

inductive Formatter.Step where
  | make (mode : Mode)
  | use (index : Nat) (style : Style) (s : Text)

inductive Formatter.Result where
  | made (index : Nat)
  | styled (s : Text)
  | unknown

namespace Workshop

def step (w : Workshop) : Formatter.Step → Workshop × Formatter.Result
  | .make mode => (w.make mode, .made w.formatters.length)
  | .use index style s =>
      match w.formatters[index]? with
      | some formatter => (w, .styled (w.style formatter style s))
      | none => (w, .unknown)

def run (w : Workshop) : List Formatter.Step → List Formatter.Result
  | [] => []
  | step :: rest => (w.step step).2 :: run (w.step step).1 rest

end Workshop

end MethodSignature.Color
