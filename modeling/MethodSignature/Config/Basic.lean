import MethodSignature.Output.Document

/-!
The configuration: how output is written by default, and at which characters text is split when
the command line names none.
-/

namespace MethodSignature

structure OutputSection where
  defaultFormat : Option Format := none
  useColor : Option Bool := none
deriving DecidableEq

structure SplitSection where
  delimiters : List Text := [[' ']]
deriving DecidableEq

structure Config where
  output : Option OutputSection := none
  split : Option SplitSection := none
deriving DecidableEq

namespace Config

def default : Config := {}

def outputFormat (c : Config) : Format := (c.output.bind (·.defaultFormat)).getD .terminal

def useColor (c : Config) : Option Bool := c.output.bind (·.useColor)

def splitDelimiters (c : Config) : List Text := (c.split.getD {}).delimiters

end Config

end MethodSignature
