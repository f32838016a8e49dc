import MethodSignature.Command.Basic

/-!
The command that writes a configuration file to start from.
-/

namespace MethodSignature.Command

def initialConfig : Text :=
  "# methodsig configuration\n" ++
  "\n" ++
  "[output]\n" ++
  "# \"terminal\" or \"json\"\n" ++
  "default_format = \"terminal\"\n" ++
  "\n" ++
  "[split]\n" ++
  "# Every character of every entry is a cut point\n" ++
  "delimiters = [\" \"]\n"

/-- Writes the initial configuration; what exists is replaced only by force. -/
def initAt (fs : FileSystem) (path : Path) (force : Bool) :
    Except CommandError Unit × FileSystem :=
  if fs.exists? path && !force then (.error .configExists, fs)
  else
    match fs.create path with
    | .error cause => (.error (.failed (.storage cause)), fs)
    | .ok (opened, location) =>
        match opened.fill location (Text.encode initialConfig) with
        | (.error cause, left) => (.error (.failed (.storage cause)), left)
        | (.ok (), written) => (.ok (), written)

def init (fs : FileSystem) (force : Bool) : Outcome Unit :=
  match initAt fs ⟨Config.fileName⟩ force with
  | (.ok (), after) =>
      ⟨.ok (), after, Text.encode "Created .methodsig.toml configuration file\n", []⟩
  | (.error e, after) => ⟨.error e, after, [], []⟩

end MethodSignature.Command
