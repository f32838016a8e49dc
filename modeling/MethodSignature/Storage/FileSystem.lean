import MethodSignature.Error
import MethodSignature.Storage.Path

/-!
A tree of directories and files with a working directory; a location is a row of names from the
root. A path is followed name by name from the root or the working directory; what goes wrong first
is the error. What the system refuses, and whether a write breaks off once it has begun, is not
decided by the tree: it is given with it.
-/

namespace MethodSignature

abbrev Location := List Bytes

inductive Entry where
  | file (content : Bytes)
  | directory
  /-- A device that can be opened but takes no octets. -/
  | fullDevice
deriving DecidableEq

structure FileTree where
  entries : List (Location × Entry)

namespace FileTree

def empty : FileTree := ⟨[]⟩

/-- What is at a location; the root is always a directory. -/
def get? (t : FileTree) (l : Location) : Option Entry :=
  if l = [] then some .directory else t.entries.lookup l

def put (t : FileTree) (l : Location) (e : Entry) : FileTree := ⟨(l, e) :: t.entries⟩

theorem get?_put_same (t : FileTree) {l : Location} (e : Entry) (h : l ≠ []) :
    (t.put l e).get? l = some e := by
  simp [get?, put, h]

theorem get?_put_other (t : FileTree) {l k : Location} (e : Entry) (h : k ≠ l) :
    (t.put l e).get? k = t.get? k := by
  have : (k == l) = false := by simpa using h
  simp [get?, put, List.lookup_cons, this]

end FileTree

-- both in octets
def maxNameLength : Nat := 255

def maxPathLength : Nat := 4095

/-- What the system does not let a program do at a location, and why: permissions, quotas, disks
that are full or fail. -/
structure Access where
  /-- No name can be looked up in the directory that is here. -/
  unsearchable : Option StorageError := none
  unreadable : Option StorageError := none
  /-- Nothing can be opened for writing here, be it new or not. -/
  unwritable : Option StorageError := none
  /-- Writing here ends in an error, with at most so many octets taken. -/
  interrupted : Option (Nat × StorageError) := none
deriving DecidableEq

structure FileSystem where
  tree : FileTree
  workingDirectory : Location
  access : Location → Access := fun _ => {}

namespace FileSystem

inductive Place where
  | existing (location : Location) (entry : Entry)
  | free (location : Location)
deriving DecidableEq

def put (fs : FileSystem) (l : Location) (e : Entry) : FileSystem :=
  { fs with tree := fs.tree.put l e }

def restrict (fs : FileSystem) (l : Location) (access : Access) : FileSystem :=
  { fs with access := fun k => if k = l then access else fs.access k }

/-- The location of a name in a directory. A directory that was removed holds no name. -/
def child (fs : FileSystem) (directory : Location) (name : Bytes) :
    Except StorageError Location :=
  if fs.tree.get? directory ≠ some .directory then .error .notFound
  else if name.length > maxNameLength then .error .nameTooLong
  else .ok (directory ++ [name])

def follow (fs : FileSystem) : Location → List Bytes → Except StorageError Place
  | directory, [] => .ok (.existing directory .directory)
  | directory, name :: rest =>
      match (fs.access directory).unsearchable with
      | some cause => .error cause
      | none =>
        if name = Path.dot then fs.follow directory rest
        else if name = Path.dotDot then fs.follow directory.dropLast rest
        else do
          let location ← fs.child directory name
          match fs.tree.get? location with
          | some .directory => fs.follow location rest
          | some entry =>
              if rest.isEmpty then return .existing location entry else throw .notADirectory
          | none => if rest.isEmpty then return .free location else throw .notFound

def route (p : Path) : List Bytes := (Path.segments p.octets).filter (· != [])

def locateNames (fs : FileSystem) (p : Path) (names : List Bytes) : Except StorageError Place :=
  if p.octets.contains 0 then .error .nulInPath
  else if p.octets.length > maxPathLength then .error .nameTooLong
  else if p.octets = [] then .error .notFound
  else fs.follow (if p.isRooted then [] else fs.workingDirectory) names

def locate (fs : FileSystem) (p : Path) : Except StorageError Place :=
  fs.locateNames p (route p)

def endsInSlash (p : Path) : Bool := p.octets.getLast? == some Path.slash

def find (fs : FileSystem) (p : Path) : Except StorageError (Location × Entry) := do
  match ← fs.locate p with
  | .existing location .directory => return (location, .directory)
  | .existing location entry =>
      if endsInSlash p then throw .notADirectory else return (location, entry)
  | .free _ => throw .notFound

def exists? (fs : FileSystem) (p : Path) : Bool := (fs.find p).isOk

/-- The content of a file. The device gives NUL octets without end, more than memory holds. -/
def read (fs : FileSystem) (p : Path) : Except StorageError Bytes := do
  let (location, entry) ← fs.find p
  match (fs.access location).unreadable, entry with
  | some cause, _ => throw cause
  | none, .file content => return content
  | none, .directory => throw .isADirectory
  | none, .fullDevice => throw (.other "out of memory")

def readText (fs : FileSystem) (p : Path) : Except StorageError Text := do
  match Text.decode? (← fs.read p) with
  | some s => return s
  | none => throw .notUtf8

def permit (fs : FileSystem) (l : Location) (opened : FileSystem) :
    Except StorageError (FileSystem × Location) :=
  match (fs.access l).unwritable with
  | some cause => .error cause
  | none => .ok (opened, l)

def openAt (fs : FileSystem) : Place → Except StorageError (FileSystem × Location)
  | .existing _ .directory => .error .isADirectory
  | .existing location .fullDevice => fs.permit location fs
  | .existing location (.file _) => fs.permit location (fs.put location (.file []))
  | .free location => fs.permit location (fs.put location (.file []))

/-- Opens a path for writing; the location of what was opened. A path that ends in a slash is
refused before its last name is looked up. -/
def create (fs : FileSystem) (p : Path) : Except StorageError (FileSystem × Location) := do
  if endsInSlash p then
    match ← fs.locateNames p (route p).dropLast with
    | .existing _ .directory => throw .isADirectory
    | .existing _ _ => throw .notADirectory
    | .free _ => throw .notFound
  else fs.openAt (← fs.locate p)

/-- Puts content into what was opened. A file keeps what was taken before the write broke off. -/
def fill (fs : FileSystem) (location : Location) (content : Bytes) :
    Except StorageError Unit × FileSystem :=
  if content = [] then (.ok (), fs)
  else if fs.tree.get? location = some .fullDevice then (.error .deviceFull, fs)
  else
    match (fs.access location).interrupted with
    | some (taken, cause) => (.error cause, fs.put location (.file (content.take taken)))
    | none => (.ok (), fs.put location (.file content))

def workingDirectory? (fs : FileSystem) : Option Path :=
  if fs.tree.get? fs.workingDirectory = some .directory then
    some ⟨Path.slash :: Path.joinSegments fs.workingDirectory⟩
  else none

end FileSystem

end MethodSignature
