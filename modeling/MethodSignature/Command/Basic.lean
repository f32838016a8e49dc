import MethodSignature.Config.Load
import MethodSignature.Output.Writer

/-!
What commands share: how they fail, what they leave behind, and where they write.
-/

namespace MethodSignature

inductive CommandError where
  | configExists
  | unreadableInput (cause : StorageError)
  | uncreatable (path : Path) (cause : StorageError)
  | failed (error : Error)
deriving DecidableEq

namespace CommandError

def headline : CommandError → Text
  | configExists => "Configuration file already exists. Use --force to overwrite."
  | unreadableInput _ => "Failed to read signatures from stdin"
  | uncreatable path _ => "Failed to create " ++ path.display
  | failed error => error.message

def cause? : CommandError → Option Text
  | configExists => none
  | unreadableInput cause => some cause.message
  | uncreatable _ cause => some cause.message
  | failed _ => none

def message (e : CommandError) : Text :=
  match e.cause? with
  | some cause => e.headline ++ ": " ++ cause
  | none => e.headline

def details (e : CommandError) : Text :=
  match e.cause? with
  | some cause => e.headline ++ "\n\nCaused by:\n    " ++ cause
  | none => e.headline

end CommandError

structure Outcome (α : Type) where
  result : Except CommandError α
  fileSystem : FileSystem
  stdout : Bytes
  events : List Event

structure OutputOptions where
  format : Format
  color : Color.Mode
  file : Option Path

namespace OutputOptions

def writer (o : OutputOptions) : Writer :=
  Writer.ofMode o.format (o.color.forDestination o.file.isSome)

def octets (o : OutputOptions) (d : Document) : Bytes :=
  Text.encode (d.render o.writer.format o.writer.colored)

/-- Writes a document to the file, which is opened only now, or to the standard output. -/
def emit (o : OutputOptions) (fs : FileSystem) (d : Document) :
    Except CommandError Unit × FileSystem × Bytes :=
  match o.file with
  | none => (.ok (), fs, o.octets d)
  | some path =>
      match fs.create path with
      | .error cause => (.error (.uncreatable path cause), fs, [])
      | .ok (opened, location) =>
          match opened.fill location (o.octets d) with
          | (.error cause, left) => (.error (.failed (.storage cause)), left, [])
          | (.ok (), written) => (.ok (), written, [])

end OutputOptions

end MethodSignature
