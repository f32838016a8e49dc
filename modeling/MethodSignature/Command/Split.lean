import MethodSignature.Command.Basic

/-!
The command that splits a text.
-/

namespace MethodSignature.Command

def split (o : OutputOptions) (source : Text) (delimiters : List Text) (fs : FileSystem) :
    Outcome Unit :=
  let result := SplitResult.of source delimiters
  let (written, after, stdout) := o.emit fs (.split result.value)
  ⟨written, after, stdout, result.events⟩

end MethodSignature.Command
