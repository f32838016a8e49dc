import MethodSignature.Text.Basic

/-!
Causes of failure outside the signature grammar: files and streams, and the configuration.
Each cause has one wording.
-/

namespace MethodSignature

inductive StorageError where
  | notFound
  | notADirectory
  | isADirectory
  | nameTooLong
  | deviceFull
  | notUtf8
  | nulInPath
  | other (text : Text)
deriving DecidableEq

def StorageError.message : StorageError → Text
  | notFound => "No such file or directory (os error 2)"
  | notADirectory => "Not a directory (os error 20)"
  | isADirectory => "Is a directory (os error 21)"
  | nameTooLong => "File name too long (os error 36)"
  | deviceFull => "No space left on device (os error 28)"
  | notUtf8 => "stream did not contain valid UTF-8"
  | nulInPath => "file name contained an unexpected NUL byte"
  | other text => text

inductive Error where
  | configuration (text : Text)
  | inContext (context message : Text)
  | storage (cause : StorageError)
  /-- The text is no TOML. What its reader says of the place and the reason is left out. -/
  | toml
deriving DecidableEq

namespace Error

def message : Error → Text
  | configuration text => "Configuration error: " ++ text
  | inContext context message => context ++ ": " ++ message
  | storage cause => cause.message
  | toml => "TOML parse error"

/-- Says in front what was being done; of the inner error only the wording is kept. -/
def withContext (e : Error) (context : Text) : Error := inContext context e.message

end Error

end MethodSignature
