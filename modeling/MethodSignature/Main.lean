import MethodSignature.Program

/-!
The program on a real machine. The part of the file system that a run looks at is read into a
tree, the run is computed, and what it changed is written back. Everything else is in
`Program.run`.
-/

namespace MethodSignature.Machine

/-- The location that a path leads to from a directory, when no link is on the way. -/
def locationOf (directory : Location) (p : Path) : Location :=
  (FileSystem.route p).foldl (fun location name =>
    if name = Path.dot then location
    else if name = Path.dotDot then location.dropLast
    else location ++ [name]) (if p.isRooted then [] else directory)

def pathOf (location : Location) : String :=
  String.ofList (Text.decodeLossy (Path.slash :: Path.joinSegments location))

def causeOf : IO.Error → StorageError
  | .permissionDenied .. => .other "Permission denied (os error 13)"
  | e => .other (toString e).toList

/-- Adds what is at a location. A device is not read: it counts as an empty file. A file that
cannot be read is noted as such, and so is a directory in which nothing can be looked up. -/
def observe (fs : FileSystem) (location : Location) : IO FileSystem := do
  let path := (← IO.currentDir) / pathOf location
  try
    let kind := (← path.metadata).type
    if kind == .dir then return fs.put location .directory
    if pathOf location = "/dev/full" then return fs.put location .fullDevice
    unless kind == .file do return fs.put location (.file [])
  catch
    | e@(.permissionDenied ..) =>
        return fs.restrict location.dropLast { unsearchable := some (causeOf e) }
    | _ => return fs
  try
    let content ← IO.FS.readBinFile path
    return fs.put location (.file content.toList)
  catch e =>
    return (fs.put location (.file [])).restrict location { unreadable := some (causeOf e) }

def observeAll (fs : FileSystem) (location : Location) : IO FileSystem :=
  (List.range location.length).foldlM (fun fs n => observe fs (location.take (n + 1))) fs

def targets (invocation : CommandLine.Invocation) : List Path :=
  match invocation.request with
  | .parse _ _ output => output.toList
  | .split _ _ _ output => output.toList
  | .init _ => [⟨Config.fileName⟩]

partial def readAll (stream : IO.FS.Stream) (before : ByteArray) : IO Bytes := do
  let chunk ← stream.read 65536
  if chunk.isEmpty then return before.toList
  readAll stream (before ++ chunk)

def environment : IO Environment := do
  let names : List String :=
    ["METHODSIG_COLOR", "RUST_LOG", "NO_COLOR", "CLICOLOR", "CLICOLOR_FORCE"]
  let found ← names.filterMapM fun name => do
    return (← IO.getEnv name).map fun value => (name.toList, Text.encode value.toList)
  return ⟨found⟩

def writeBack (before after : FileTree) (locations : List Location) : IO Unit :=
  locations.forM fun location =>
    if before.get? location = after.get? location then pure ()
    else
      match after.get? location with
      | some (.file content) => IO.FS.writeBinFile (pathOf location) content.toByteArray
      | _ => pure ()

def main (arguments : List String) : IO UInt32 := do
  let env ← environment
  let words := arguments.map fun a => Text.encode a.toList
  let directory := locationOf [] (Path.ofText (← IO.currentDir).toString.toList)
  let invocation := CommandLine.read words env
  let places := match invocation with
    | .ok invocation => (targets invocation).map (locationOf directory)
    | .error _ => []
  let here : Path := ⟨Path.slash :: Path.joinSegments directory⟩
  let configs := (Config.candidates here).map (locationOf directory)
  let fs ← (directory :: configs ++ places).foldlM observeAll
    { tree := .empty, workingDirectory := directory }
  let stdin ← match invocation with
    | .ok ⟨_, _, .parse [] _ _⟩ => do readAll (← IO.getStdin) ByteArray.empty
    | _ => pure []
  let result := Program.run ⟨words, env, stdin, fs⟩
  writeBack fs.tree result.fileSystem.tree places
  let stdout ← IO.getStdout
  stdout.write result.stdout.toByteArray
  stdout.flush
  IO.eprint (String.ofList (result.stderr env (Text.ofNat (← IO.monoMsNow))))
  return result.exitCode.toUInt32

end MethodSignature.Machine

def main (arguments : List String) : IO UInt32 := MethodSignature.Machine.main arguments
