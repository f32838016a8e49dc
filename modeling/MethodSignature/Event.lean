import MethodSignature.Error
import MethodSignature.Signature.Basic

/-!
What the program tells its log. An event is what happened; its level, the part of the program
it comes from, its sentence and its fields are read off it. A computation that logs is a value
paired with its events in order.
-/

namespace MethodSignature

inductive Level where
  | error
  | warn
  | info
  | debug
  | trace
deriving DecidableEq, Repr

namespace Level

def name : Level → Text
  | error => "ERROR"
  | warn => "WARN"
  | info => "INFO"
  | debug => "DEBUG"
  | trace => "TRACE"

/-- How much is shown at this level: each level shows what the ones before it show. -/
def rank : Level → Nat
  | error => 1
  | warn => 2
  | info => 3
  | debug => 4
  | trace => 5

end Level

inductive Event where
  | argumentParsed (argument : Argument)
  | argumentMalformed (token : Text) (parts : Nat)
  | signatureParsed (name : Text) (arguments : Nat)
  | signatureRejected (input : Text) (fault : Signature.Fault)
  | signaturesParsed (total failed : Nat)
  | sourceSplit (tokens : Nat)
  | configLoaded (path : Text)
  | configUnreadable (path : Text) (cause : StorageError)
  | configInvalid (error : Error)
  | configMissing (directories : Nat)
  | workingDirectoryUnknown (cause : StorageError)
deriving DecidableEq

inductive Event.Field where
  | count (n : Nat)
  | text (s : Text)
  | shown (s : Text)
deriving DecidableEq

namespace Event

def level : Event → Level
  | argumentParsed _ => .trace
  | argumentMalformed _ _ => .trace
  | signatureParsed _ _ => .debug
  | signatureRejected _ _ => .debug
  | signaturesParsed _ _ => .info
  | sourceSplit _ => .debug
  | configLoaded _ => .debug
  | configUnreadable _ _ => .warn
  | configInvalid _ => .warn
  | configMissing _ => .debug
  | workingDirectoryUnknown _ => .warn

/-- The part of the program that a log filter selects the event by. -/
def origin : Event → Text
  | argumentParsed _ => "methodsig::parser::arguments"
  | argumentMalformed _ _ => "methodsig::parser::arguments"
  | signatureParsed _ _ => "methodsig::parser"
  | signatureRejected _ _ => "methodsig::parser"
  | signaturesParsed _ _ => "methodsig::commands::parse"
  | sourceSplit _ => "methodsig::commands::split"
  | configLoaded _ => "methodsig::config::loader"
  | configUnreadable _ _ => "methodsig::config::loader"
  | configInvalid _ => "methodsig::config::loader"
  | configMissing _ => "methodsig::config::loader"
  | workingDirectoryUnknown _ => "methodsig::config::loader"

def message : Event → Text
  | argumentParsed _ => "parsed argument"
  | argumentMalformed _ _ => "malformed argument"
  | signatureParsed _ _ => "parsed signature"
  | signatureRejected _ _ => "rejected signature"
  | signaturesParsed _ _ => "parsed signatures"
  | sourceSplit _ => "split source"
  | configLoaded path => "Loaded config from " ++ path
  | configUnreadable path cause =>
      "Failed to read config file " ++ path ++ ": " ++ cause.message
  | configInvalid error => error.message ++ ". Using defaults."
  | configMissing directories =>
      "No config found after checking " ++ Text.ofNat directories ++
        " directories. Using default config."
  | workingDirectoryUnknown cause =>
      "Failed to get current directory: " ++ cause.message ++ ". Using default config."

def fields : Event → List (Text × Field)
  | argumentParsed a => [("arg_type", .text a.type), ("name", .text a.name)]
  | argumentMalformed token parts => [("token", .text token), ("parts", .count parts)]
  | signatureParsed name arguments => [("method", .text name), ("arguments", .count arguments)]
  | signatureRejected input fault => [("input", .text input), ("error", .shown fault.message)]
  | signaturesParsed total failed => [("total", .count total), ("failed", .count failed)]
  | sourceSplit tokens => [("tokens", .count tokens)]
  | configLoaded _ => []
  | configUnreadable _ _ => []
  | configInvalid _ => []
  | configMissing _ => []
  | workingDirectoryUnknown _ => []

end Event

structure Logged (α : Type) where
  value : α
  events : List Event

namespace Logged

def pure {α : Type} (a : α) : Logged α := ⟨a, []⟩

def bind {α β : Type} (x : Logged α) (f : α → Logged β) : Logged β :=
  ⟨(f x.value).value, x.events ++ (f x.value).events⟩

instance : Monad Logged where
  pure := pure
  bind := bind

@[simp] theorem pure_value {α : Type} (a : α) : (Pure.pure a : Logged α).value = a := rfl

@[simp] theorem pure_events {α : Type} (a : α) : (Pure.pure a : Logged α).events = [] := rfl

@[simp] theorem bind_value {α β : Type} (x : Logged α) (f : α → Logged β) :
    (x >>= f).value = (f x.value).value := rfl

@[simp] theorem bind_events {α β : Type} (x : Logged α) (f : α → Logged β) :
    (x >>= f).events = x.events ++ (f x.value).events := rfl

def log (e : Event) : Logged Unit := ⟨(), [e]⟩

end Logged

end MethodSignature
