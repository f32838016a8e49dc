import MethodSignature.Config.Decode
import MethodSignature.Event
import MethodSignature.Storage.FileSystem

/-!
Finding the configuration. A directory and its ancestors are searched, nearest first, and the
first configuration file that can be read and is valid is used. Broken files on the way are
logged and passed over.
-/

namespace MethodSignature.Config

def fileName : Bytes := Text.encode ".methodsig.toml"

def maxDirectories : Nat := 10

/-- Reads one configuration file. What is wrong with its content is said with its path. -/
def loadFile (fs : FileSystem) (p : Path) : Except Error Config :=
  match fs.readText p with
  | .error cause => .error (.storage cause)
  | .ok s =>
      match parse s with
      | .error e => .error (e.withContext ("Invalid config file " ++ p.display))
      | .ok c => .ok c

/-- The configuration at a path, when it is there and good. That no file is there is not worth
a word. -/
def attempt (fs : FileSystem) (p : Path) : Logged (Option Config) :=
  match loadFile fs p with
  | .ok c => ⟨some c, [.configLoaded p.display]⟩
  | .error (.storage .notFound) => ⟨none, []⟩
  | .error (.storage cause) => ⟨none, [.configUnreadable p.display cause]⟩
  | .error e => ⟨none, [.configInvalid e]⟩

def search (fs : FileSystem) : List Path → Logged Config
  | [] => ⟨default, [.configMissing maxDirectories]⟩
  | p :: rest =>
      let tried := attempt fs p
      match tried.value with
      | some c => ⟨c, tried.events⟩
      | none =>
          let found := search fs rest
          ⟨found.value, tried.events ++ found.events⟩

def candidates (start : Path) : List Path :=
  (start.ancestors maxDirectories).map (·.join fileName)

def loadFrom (fs : FileSystem) (start : Path) : Logged Config := search fs (candidates start)

def load (fs : FileSystem) : Logged Config :=
  match fs.workingDirectory? with
  | some start => loadFrom fs start
  | none => ⟨default, [.workingDirectoryUnknown .notFound]⟩

end MethodSignature.Config
