import MethodSignature.Event

/-!
The level of log shown for a number of verbosity flags.
-/

namespace MethodSignature.Level

def ofVerbosity : Nat → Level
  | 0 => warn
  | 1 => info
  | 2 => debug
  | _ => trace

def keyword : Level → Text
  | error => "error"
  | warn => "warn"
  | info => "info"
  | debug => "debug"
  | trace => "trace"

end MethodSignature.Level
