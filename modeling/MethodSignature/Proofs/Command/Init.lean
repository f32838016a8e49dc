import MethodSignature.Command.Init
import MethodSignature.Proofs.Config.Search
import MethodSignature.Proofs.Storage.Joined

/-!
Writing a configuration to start from. Either nothing changes, or the file lies in the directory
and says what holds without one, or the write broke off and a start of the file lies there. The
nearest configuration is looked for first, so what lies further up does not matter where the file
can be read.
-/

namespace MethodSignature

namespace Config

theorem isFileName_fileName : Path.IsFileName fileName where
  nonempty := by decide
  single := by decide
  noNul := by decide
  named := by decide
  short := by decide

theorem parse_initialConfig :
    parse Command.initialConfig = .ok ⟨some ⟨some .terminal, none⟩, some ⟨[[' ']]⟩⟩ := by
  decide +kernel

theorem loadFile_of_readText {fs : FileSystem} {p : Path} {s : Text} {c : Config}
    (read : fs.readText p = .ok s) (good : parse s = .ok c) : loadFile fs p = .ok c := by
  rw [loadFile, read]
  simp only [good]

theorem loadFrom_of_loadFile {fs : FileSystem} {d : Path} {c : Config}
    (loaded : loadFile fs (d.join fileName) = .ok c) : (loadFrom fs d).value = c := by
  have good : standing fs (d.join fileName) = .good c := by
    rw [standing, loaded]
  have nearest : nearest? fs (candidates d) = some c := by
    change nearest? fs (d.join fileName :: _) = some c
    rw [nearest?, List.findSome?_cons, good]
    rfl
  rw [loadFrom, search_value, nearest]
  rfl

end Config

namespace FileSystem

/-- A path of slashes only: the first names the root, the others add nothing. -/
def slashes (n : Nat) : Path := ⟨List.replicate (n + 1) Path.slash⟩

theorem length_slashes (n : Nat) : (slashes n).octets.length = n + 1 := List.length_replicate

theorem nul_not_mem_slashes (n : Nat) : 0 ∉ (slashes n).octets := by
  intro mem
  have same : (0 : UInt8) = Path.slash := List.eq_of_mem_replicate mem
  revert same
  decide

theorem route_slashes (n : Nat) : route (slashes n) = [] := by
  induction n with
  | zero => rfl
  | succ n ih =>
    change route ⟨[] ++ Path.slash :: List.replicate (n + 1) Path.slash⟩ = []
    rw [route_append_slash]
    exact ih

theorem find_slashes (fs : FileSystem) {n : Nat} (short : n < maxPathLength) :
    fs.find (slashes n) = .ok ([], .directory) := by
  have fits : (slashes n).octets.length ≤ maxPathLength := by
    rw [length_slashes]
    exact short
  apply find_eq_directory_iff.mpr
  refine locateNames_eq_ok_iff.mpr ⟨nul_not_mem_slashes n, fits, nofun, ?_⟩
  rw [route_slashes]
  rfl

theorem length_join_slashes (n : Nat) (name : Bytes) :
    ((slashes n).join name).octets.length = n + 1 + name.length := by
  have last : (slashes n).octets.getLast? = some Path.slash := by
    rw [slashes, List.getLast?_replicate]
    rfl
  rw [Path.join, if_pos (.inr last), List.length_append, length_slashes]

theorem locate_of_long (fs : FileSystem) {p : Path} (noNul : 0 ∉ p.octets)
    (long : maxPathLength < p.octets.length) : fs.locate p = .error .nameTooLong := by
  rw [locate, locateNames, if_neg (by simpa using noNul), if_pos long]

end FileSystem

namespace Command

inductive Initializing (fs : FileSystem) (path : Path) (force : Bool) : Prop
  | refused {e : CommandError} (kept : initAt fs path force = (.error e, fs))
      (bar : (∀ l, ¬ fs.Opens path l) ∨ ¬ (force = true ∨ fs.exists? path = false))
  | cut {l : Location} {e : CommandError} {left : FileSystem}
      (broken : initAt fs path force = (.error e, left)) (opens : fs.Opens path l)
      (short : ¬ fs.Takes l) (cut : fs.Cut left l (Text.encode initialConfig))
      (allowed : force = true ∨ fs.exists? path = false)
  | done {l : Location} {after : FileSystem} (written : initAt fs path force = (.ok (), after))
      (opens : fs.Opens path l) (takes : fs.Takes l)
      (replaced : fs.Replaced after l (Text.encode initialConfig))
      (allowed : force = true ∨ fs.exists? path = false)

theorem initializing (fs : FileSystem) (path : Path) (force : Bool) :
    Initializing fs path force := by
  have nonempty : Text.encode initialConfig ≠ [] := by decide
  by_cases present : (fs.exists? path && !force) = true
  · have kept : initAt fs path force = (.error .configExists, fs) := if_pos present
    refine .refused kept (.inr fun allowed => ?_)
    cases allowed with
    | inl forced => simp [forced] at present
    | inr absent => simp [absent] at present
  · have allowed : force = true ∨ fs.exists? path = false := by
      cases force with
      | true => exact .inl rfl
      | false => exact .inr (by simpa using present)
    cases fs.writing path nonempty with
    | @refused cause failed closed =>
      have kept : initAt fs path force = (.error (.failed (.storage cause)), fs) := by
        rw [initAt, if_neg present, failed]
      exact .refused kept (.inl closed)
    | @cut l opened left cause opens created broken short cut =>
      have aborted : initAt fs path force = (.error (.failed (.storage cause)), left) := by
        rw [initAt, if_neg present, created]
        simp only [broken]
      exact .cut aborted opens short cut allowed
    | done opens created filled takes replaced =>
      refine .done ?_ opens takes replaced allowed
      rw [initAt, if_neg present, created]
      simp only [filled]

def initIn (fs : FileSystem) (d : Path) (force : Bool) : Except CommandError Unit × FileSystem :=
  initAt fs (d.join Config.fileName) force

structure Initialized (fs after : FileSystem) (d : Path) (l : Location) : Prop where
  directory : fs.IsDirectory d l
  replaced : fs.Replaced after (l ++ [Config.fileName]) (Text.encode initialConfig)
  found : after.find (d.join Config.fileName) =
    .ok (l ++ [Config.fileName], .file (Text.encode initialConfig))

/-- The file was opened, but the system did not take the whole of it; nothing else is
different. -/
structure Aborted (fs after : FileSystem) (d : Path) (l : Location) : Prop where
  directory : fs.IsDirectory d l
  writable : fs.Writable l Config.fileName
  short : ¬ fs.Takes (l ++ [Config.fileName])
  cut : fs.Cut after (l ++ [Config.fileName]) (Text.encode initialConfig)

theorem Initialized.loadFrom {fs after : FileSystem} {d : Path} {l : Location}
    (initialized : Initialized fs after d l)
    (readable : (fs.access (l ++ [Config.fileName])).unreadable = none) :
    Config.parse initialConfig = .ok (Config.loadFrom after d).value := by
  rw [← initialized.replaced.access] at readable
  have read := FileSystem.readText_of_find initialized.found readable
  have loaded := Config.loadFile_of_readText read Config.parse_initialConfig
  rw [Config.parse_initialConfig, Config.loadFrom_of_loadFile loaded]

structure Neutral (c : Config) : Prop where
  format : c.outputFormat = Config.default.outputFormat
  color : c.useColor = Config.default.useColor
  delimiters : c.splitDelimiters = Config.default.splitDelimiters

theorem neutral_of_parse {c : Config} (parsed : Config.parse initialConfig = .ok c) :
    Neutral c := by
  rw [Config.parse_initialConfig] at parsed
  rw [← Except.ok.inj parsed]
  exact ⟨rfl, rfl, rfl⟩

/-- Initializing a directory changes nothing; or it puts the initial configuration there, and then
what is configured is what holds by default, if the file can be read; or the write breaks off, and
a start of the configuration lies there. It succeeds when the directory is there, the path of the
file is not too long, the system lets the file be opened for writing and takes the whole of it,
and nothing lies there or it may be replaced. -/
theorem initIn_outcome (fs : FileSystem) (d : Path) (force : Bool) :
    ((∃ e, (initIn fs d force).1 = .error e) ∧ (initIn fs d force).2 = fs ∨
        (∃ e, (initIn fs d force).1 = .error e) ∧
          (∃ l, Aborted fs (initIn fs d force).2 d l) ∧
          (force = true ∨ fs.exists? (d.join Config.fileName) = false) ∨
        (initIn fs d force).1 = .ok () ∧ ∃ l, Initialized fs (initIn fs d force).2 d l ∧
          ((fs.access (l ++ [Config.fileName])).unreadable = none →
            Neutral (Config.loadFrom (initIn fs d force).2 d).value)) ∧
      ((initIn fs d force).1 = .ok () ↔
        (d.join Config.fileName).octets.length ≤ maxPathLength ∧
          (∃ l, fs.IsDirectory d l ∧ fs.Writable l Config.fileName ∧
            fs.Takes (l ++ [Config.fileName])) ∧
          (force = true ∨ fs.exists? (d.join Config.fileName) = false)) := by
  have possible {k : Location} := fs.opens_join_iff d Config.isFileName_fileName (k := k)
  unfold initIn
  cases initializing fs (d.join Config.fileName) force with
  | refused kept bar =>
    rw [kept]
    refine ⟨.inl ⟨⟨_, rfl⟩, rfl⟩, iff_of_false nofun ?_⟩
    rintro ⟨short, ⟨l, directory, writable, -⟩, allowed⟩
    cases bar with
    | inl closed => exact closed _ (possible.mpr ⟨short, l, directory, writable, rfl⟩)
    | inr forbidden => exact forbidden allowed
  | cut broken opens short cut allowed =>
    rw [broken]
    obtain ⟨fits, l, directory, writable, rfl⟩ := possible.mp opens
    have aborted : Aborted fs _ d l := ⟨directory, writable, short, cut⟩
    refine ⟨.inr (.inl ⟨⟨_, rfl⟩, ⟨l, aborted⟩, allowed⟩), iff_of_false nofun ?_⟩
    rintro ⟨-, ⟨k, also, room, takes⟩, -⟩
    have same := opens.leads.unique (possible.mpr ⟨fits, k, also, room, rfl⟩).leads
    exact short (same ▸ takes)
  | done written opens takes replaced allowed =>
    rw [written]
    obtain ⟨fits, l, directory, writable, rfl⟩ := possible.mp opens
    have initialized : Initialized fs _ d l := ⟨directory, replaced, replaced.find opens.leads⟩
    refine ⟨.inr (.inr ⟨rfl, l, initialized, fun readable => ?_⟩), iff_of_true rfl ?_⟩
    · exact neutral_of_parse (initialized.loadFrom readable)
    · exact ⟨fits, ⟨l, directory, writable, takes⟩, allowed⟩

def bareRoot : FileSystem where
  tree := .empty
  workingDirectory := []

def deviceRoot : FileSystem := bareRoot.put [Config.fileName] .fullDevice

def fullRoot : FileSystem :=
  (bareRoot.put [Config.fileName] (.file (Text.encode "[output]\n"))).restrict [Config.fileName]
    { interrupted := some (0, .deviceFull) }

def closedRoot : FileSystem :=
  bareRoot.restrict [Config.fileName] { unwritable := some (.other "Permission denied") }

/-- A root with a configuration, and a directory in which one can be written but not read. -/
def hiddenBelowGood : FileSystem :=
  ((bareRoot.put [Config.fileName]
    (.file (Text.encode "[output]\ndefault_format = \"json\"\n"))).put
    [Text.encode "a"] .directory).restrict [Text.encode "a", Config.fileName]
    { unreadable := some (.other "Permission denied") }

/-- A directory and leave to write are not enough where the joined path is too long or the system
does not take what is written, and what breaks off may be gone; the empty path needs no directory
of that name; and a file that cannot be read says nothing. -/
theorem initIn_exceptions :
    (bareRoot.find (FileSystem.slashes 4080) = .ok ([], .directory) ∧
        bareRoot.exists? ((FileSystem.slashes 4080).join Config.fileName) = false ∧
        initIn bareRoot (FileSystem.slashes 4080) true =
          (.error (.failed (.storage .nameTooLong)), bareRoot)) ∧
      (deviceRoot.find ⟨[Path.slash]⟩ = .ok ([], .directory) ∧
        (initIn deviceRoot ⟨[Path.slash]⟩ true).1 = .error (.failed (.storage .deviceFull))) ∧
      (bareRoot.find ⟨[]⟩ = .error .notFound ∧ (initIn bareRoot ⟨[]⟩ true).1 = .ok ()) ∧
      ((initIn fullRoot ⟨[Path.slash]⟩ true).1 = .error (.failed (.storage .deviceFull)) ∧
        fullRoot.tree.get? [Config.fileName] = some (.file (Text.encode "[output]\n")) ∧
        (initIn fullRoot ⟨[Path.slash]⟩ true).2.tree.get? [Config.fileName] = some (.file [])) ∧
      (closedRoot.find ⟨[Path.slash]⟩ = .ok ([], .directory) ∧
        closedRoot.exists? (Path.join ⟨[Path.slash]⟩ Config.fileName) = false ∧
        (initIn closedRoot ⟨[Path.slash]⟩ true).1 =
          .error (.failed (.storage (.other "Permission denied")))) ∧
      (initIn hiddenBelowGood ⟨Text.encode "/a"⟩ true).1 = .ok () ∧
        (Config.loadFrom (initIn hiddenBelowGood ⟨Text.encode "/a"⟩ true).2
          ⟨Text.encode "/a"⟩).value.outputFormat ≠ Config.default.outputFormat := by
  have isName := Config.isFileName_fileName
  have length := FileSystem.length_join_slashes 4080 Config.fileName
  have noNul : 0 ∉ ((FileSystem.slashes 4080).join Config.fileName).octets := fun mem =>
    FileSystem.nul_not_mem_slashes 4080 ((FileSystem.nul_mem_join_iff _ isName).mp mem)
  have slashless := FileSystem.not_endsInSlash_join (FileSystem.slashes 4080) isName
  have root := bareRoot.find_slashes (n := 4080) (by decide)
  unfold initIn
  -- from here on the long path is a variable, so that nothing looks into its octets
  generalize (FileSystem.slashes 4080).join Config.fileName = path at length noNul slashless ⊢
  have long : maxPathLength < path.octets.length := by
    rw [length]
    decide
  have lost := bareRoot.locate_of_long noNul long
  have absent : bareRoot.exists? path = false := by
    rw [FileSystem.exists?, FileSystem.find, lost]
    rfl
  have failed : bareRoot.create path = .error .nameTooLong := by
    rw [FileSystem.create_of_not_endsInSlash slashless, lost]
    rfl
  have refused : initAt bareRoot path true =
      (.error (.failed (.storage .nameTooLong)), bareRoot) := by
    rw [initAt, absent, failed]
    rfl
  exact ⟨⟨root, absent, refused⟩, by decide +kernel, by decide +kernel, by decide +kernel,
    by decide +kernel, by decide +kernel⟩

end Command

end MethodSignature
