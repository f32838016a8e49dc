import MethodSignature.Text.Basic

/-!
Environment variables. A value is octets; as text it counts only when it is UTF-8.
-/

namespace MethodSignature

structure Environment where
  bindings : List (Text × Bytes)

namespace Environment

def get? (env : Environment) (name : Text) : Option Bytes := env.bindings.lookup name

def text? (env : Environment) (name : Text) : Option Text :=
  (env.get? name).bind Text.decode?

end Environment

end MethodSignature
