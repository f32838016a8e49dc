import MethodSignature.Color.Basic
import MethodSignature.Output.Document
import MethodSignature.Storage.Path

/-!
What a command line may hold: the flags of each scope, and the requests it can amount to. The
global flags belong to every scope.
-/

namespace MethodSignature.CommandLine

inductive Flag where
  | verbose
  | color
  | format
  | output
  | delimiter
  | force
  | help
  | version
deriving DecidableEq, Repr

inductive Scope where
  | top
  | parse
  | split
  | init
deriving DecidableEq, Repr

inductive Verb where
  | parse
  | split
  | init
  | help
deriving DecidableEq, Repr

namespace Verb

def all : List Verb := [parse, split, init, help]

def name : Verb → Text
  | parse => "parse"
  | split => "split"
  | init => "init"
  | help => "help"

def ofWord? (word : Bytes) : Option Verb := all.find? (·.name.encode = word)

end Verb

namespace Flag

def longName : Flag → Text
  | verbose => "verbose"
  | color => "color"
  | format => "format"
  | output => "output"
  | delimiter => "delimiter"
  | force => "force"
  | help => "help"
  | version => "version"

def shortName? : Flag → Option Char
  | verbose => some 'v'
  | color => none
  | format => some 'f'
  | output => some 'o'
  | delimiter => some 'd'
  | force => some 'f'
  | help => some 'h'
  | version => some 'V'

def valueName? : Flag → Option Text
  | color => some "COLOR"
  | format => some "FORMAT"
  | output => some "OUTPUT"
  | delimiter => some "DELIMITERS"
  | _ => none

def takesValue (f : Flag) : Bool := f.valueName?.isSome

end Flag

namespace Scope

def flags : Scope → List Flag
  | top => [.verbose, .color, .help, .version]
  | parse => [.format, .verbose, .color, .output, .help]
  | split => [.delimiter, .verbose, .color, .format, .output, .help]
  | init => [.force, .verbose, .color, .help]

def long? (s : Scope) (name : Text) : Option Flag := s.flags.find? (·.longName = name)

def short? (s : Scope) (c : Char) : Option Flag := s.flags.find? (·.shortName? = some c)

/-- How many arguments without a flag a scope takes; `none` is any number. -/
def capacity : Scope → Option Nat
  | top => some 0
  | parse => none
  | split => some 1
  | init => some 0

end Scope

inductive Request where
  | parse (signatures : List Text) (format : Option Format) (output : Option Path)
  | split (source : Text) (delimiters : List Text) (format : Option Format)
      (output : Option Path)
  | init (force : Bool)
deriving DecidableEq

structure Invocation where
  verbosity : Nat
  color : Color.Mode
  request : Request
deriving DecidableEq

inductive UsageError where
  | invalidValue
  | unknownArgument
  | invalidSubcommand
  | missingRequiredArgument
  | missingSubcommand
  | nothingGiven
  | argumentConflict
  | tooManyValues
  | invalidUtf8
deriving DecidableEq, Repr

inductive Topic where
  | scope (s : Scope)
  | help
deriving DecidableEq, Repr

inductive Stop where
  | refused (e : UsageError)
  | help (topic : Topic)
  | version
deriving DecidableEq, Repr

end MethodSignature.CommandLine
