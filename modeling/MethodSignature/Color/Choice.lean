import MethodSignature.Color.Basic
import MethodSignature.Config.Basic
import MethodSignature.Environment

/-!
Which color mode holds: the command line decides unless it leaves the choice open, then the
configuration, then the environment.
-/

namespace MethodSignature.Color.Mode

/-- The mode after the customary variables had their say; later ones win. -/
def ofEnvironment (env : Environment) (mode : Mode) : Mode :=
  let mode := if (env.text? "NO_COLOR").isSome then never else mode
  let mode := if env.text? "CLICOLOR" = some ['0'] then never else mode
  if env.text? "CLICOLOR_FORCE" = some ['1'] then always else mode

def choose (flag : Mode) (config : Config) (env : Environment) : Mode :=
  match flag, config.useColor with
  | auto, some true => always
  | auto, some false => never
  | auto, none => ofEnvironment env auto
  | explicit, _ => explicit

end MethodSignature.Color.Mode
