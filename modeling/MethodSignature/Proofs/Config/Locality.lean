import Mathlib.Data.List.Chain
import Mathlib.Data.List.ReduceOption
import MethodSignature.Proofs.Config.Search

/-!
What the search for a configuration looks at and what it logs. A candidate is passed over in
silence when no file is there, and with one warning when the file is broken; the first good one
ends the search. So what lies behind it makes no difference to the result or the log.
-/

namespace MethodSignature

/-- Directories from a start upwards, at most `n` of them: each is followed by its parent, and
the last has none unless it is the `n`th. -/
structure Path.IsClimb (start : Path) (n : Nat) (directories : List Path) : Prop where
  first : directories.head? = some start
  upward : directories.IsChain fun d e => d.parent? = some e
  within : directories.length ≤ n
  ends : directories.length < n → ∀ d ∈ directories.getLast?, d.parent? = none

namespace Path

theorem isClimb_singleton {start : Path} {n : Nat} (ends : n = 0 ∨ start.parent? = none) :
    start.IsClimb (n + 1) [start] := by
  refine ⟨rfl, .singleton start, Nat.le_add_left 1 n, fun short d last => ?_⟩
  have same : start = d := by simpa using last
  rw [← same]
  exact ends.resolve_left fun zero => by simp [zero] at short

theorem IsClimb.cons {start next : Path} {n : Nat} {directories : List Path}
    (parent : start.parent? = some next) (climb : next.IsClimb n directories) :
    start.IsClimb (n + 1) (start :: directories) := by
  obtain ⟨first, upward, within, ends⟩ := climb
  obtain ⟨rest, rfl⟩ := List.head?_eq_some_iff.mp first
  refine ⟨rfl, .cons_cons parent upward, Nat.succ_le_succ within, fun short d last => ?_⟩
  exact ends (Nat.lt_of_succ_lt_succ short) d (by simpa using last)

theorem isClimb_ancestors (start : Path) (n : Nat) :
    start.IsClimb (n + 1) (start.ancestors (n + 1)) := by
  induction n generalizing start with
  | zero =>
    rw [ancestors]
    cases start.parent? with
    | none => exact isClimb_singleton (.inl rfl)
    | some next => exact isClimb_singleton (.inl rfl)
  | succ n ih =>
    rw [ancestors]
    cases parent : start.parent? with
    | none => exact isClimb_singleton (.inr parent)
    | some next => exact (ih next).cons parent

end Path

namespace Config

variable {fs other : FileSystem} {p : Path} {ps : List Path}

inductive Skipped (fs : FileSystem) (p : Path) : Option Event → Prop
  | missing (absent : fs.readText p = .error .notFound) : Skipped fs p none
  | unreadable {cause : StorageError} (failed : fs.readText p = .error cause)
      (there : cause ≠ .notFound) : Skipped fs p (some (.configUnreadable p.display cause))
  | invalid {s : Text} {e : Error} (held : fs.readText p = .ok s) (wrong : parse s = .error e) :
      Skipped fs p (some (.configInvalid (e.withContext ("Invalid config file " ++ p.display))))

/-- How a search ends: at the first of the candidates that are left, which is good, or with the
defaults when none is left. -/
inductive Settled (fs : FileSystem) : List Path → Config → Event → Prop
  | found {p : Path} {s : Text} {c : Config} (held : fs.readText p = .ok s)
      (good : parse s = .ok c) (rest : List Path) :
      Settled fs (p :: rest) c (.configLoaded p.display)
  | exhausted : Settled fs [] default (.configMissing maxDirectories)

theorem Skipped.level {e : Event} (skipped : Skipped fs p (some e)) : e.level = .warn := by
  cases skipped <;> rfl

theorem Settled.level {c : Config} {e : Event} (settled : Settled fs ps c e) :
    e.level = .debug := by
  cases settled <;> rfl

theorem attempt_cases (fs : FileSystem) (p : Path) :
    (∃ s c, fs.readText p = .ok s ∧ parse s = .ok c ∧
        attempt fs p = ⟨some c, [.configLoaded p.display]⟩) ∨
      ∃ note, Skipped fs p note ∧ attempt fs p = ⟨none, note.toList⟩ := by
  unfold attempt loadFile
  cases held : fs.readText p with
  | error cause =>
    by_cases there : cause = .notFound
    · subst there
      exact .inr ⟨_, .missing held, rfl⟩
    · exact .inr ⟨_, .unreadable held there, by simp⟩
  | ok s =>
    cases parsed : parse s with
    | error e => exact .inr ⟨_, .invalid held parsed, by simp [parsed, Error.withContext]⟩
    | ok c => exact .inl ⟨s, c, rfl, parsed, by simp [parsed]⟩

theorem attempt_congr (same : other.readText p = fs.readText p) :
    attempt other p = attempt fs p := by
  rw [attempt, attempt, loadFile, loadFile, same]

def reach (fs : FileSystem) (ps : List Path) : Nat :=
  ps.findIdx fun p => (standing fs p).config?.isSome

theorem reach_cons_of_some {c : Config} (found : (attempt fs p).value = some c)
    (ps : List Path) : reach fs (p :: ps) = 0 := by
  rw [attempt_value] at found
  simp [reach, List.findIdx_cons, found]

theorem reach_cons_of_none (skipped : (attempt fs p).value = none) (ps : List Path) :
    reach fs (p :: ps) = reach fs ps + 1 := by
  rw [attempt_value] at skipped
  simp [reach, List.findIdx_cons, skipped]

/-- What a search comes to: the candidates before the nearest good one are skipped one by one,
each with what is noted about it, and what is left settles the search. -/
structure Searched (fs : FileSystem) (ps : List Path) (result : Logged Config)
    (notes : List (Option Event)) (last : Event) : Prop where
  skipped : List.Forall₂ (Skipped fs) (ps.take (reach fs ps)) notes
  settled : Settled fs (ps.drop (reach fs ps)) result.value last
  events : result.events = notes.reduceOption ++ [last]

theorem exists_searched (fs : FileSystem) (ps : List Path) :
    ∃ notes last, Searched fs ps (search fs ps) notes last := by
  induction ps with
  | nil => exact ⟨[], .configMissing maxDirectories, .nil, .exhausted, rfl⟩
  | cons p rest ih =>
    rcases attempt_cases fs p with ⟨s, c, held, good, tried⟩ | ⟨note, skipped, tried⟩
    · have here := reach_cons_of_some (congrArg Logged.value tried) rest
      have result : search fs (p :: rest) = ⟨c, [.configLoaded p.display]⟩ := by
        simp [search, tried]
      rw [result]
      refine ⟨[], .configLoaded p.display, ?_, ?_, rfl⟩
      · rw [here]
        exact .nil
      · rw [here]
        exact .found held good rest
    · have further := reach_cons_of_none (congrArg Logged.value tried) rest
      have result : search fs (p :: rest) =
          ⟨(search fs rest).value, note.toList ++ (search fs rest).events⟩ := by
        simp [search, tried]
      obtain ⟨notes, last, searched⟩ := ih
      rw [result]
      refine ⟨note :: notes, last, ?_, ?_, ?_⟩
      · rw [further]
        exact .cons skipped searched.skipped
      · rw [further]
        exact searched.settled
      · rw [searched.events]
        cases note <;> rfl

theorem level_of_mem_reduceOption {notes : List (Option Event)}
    (skipped : List.Forall₂ (Skipped fs) ps notes) {e : Event} (mem : e ∈ notes.reduceOption) :
    e.level = .warn := by
  rw [List.reduceOption_mem_iff] at mem
  induction skipped with
  | nil => cases mem
  | cons here _ ih =>
    rcases List.mem_cons.mp mem with rfl | later
    · exact here.level
    · exact ih later

theorem search_congr (same : ∀ p ∈ ps.take (reach fs ps + 1), other.readText p = fs.readText p) :
    search other ps = search fs ps := by
  induction ps with
  | nil => rfl
  | cons p rest ih =>
    obtain ⟨here, later⟩ := List.forall_mem_cons.mp same
    rw [search, search, attempt_congr here]
    cases tried : (attempt fs p).value with
    | some c => rfl
    | none =>
      -- the search of the rest reaches one candidate less far, which is what is left to agree on
      rw [reach_cons_of_none tried] at later
      rw [ih later]

/-- Looking for the configuration of a directory logs one warning for each broken file on the way
and one closing event, and depends on what the candidates up to the nearest good one hold and on
nothing else. -/
theorem loadFrom_searched (fs : FileSystem) (start : Path) :
    (∃ directories, start.IsClimb 10 directories ∧
        candidates start = directories.map (·.join (Text.encode ".methodsig.toml"))) ∧
      (∃ notes last, Searched fs (candidates start) (loadFrom fs start) notes last ∧
        (∀ e ∈ notes.reduceOption, e.level = .warn) ∧ last.level = .debug) ∧
      ∀ other : FileSystem,
        (∀ p ∈ (candidates start).take (reach fs (candidates start) + 1),
          other.readText p = fs.readText p) →
        loadFrom other start = loadFrom fs start := by
  obtain ⟨notes, last, searched⟩ := exists_searched fs (candidates start)
  have warned : ∀ e ∈ notes.reduceOption, e.level = .warn := fun _ =>
    level_of_mem_reduceOption searched.skipped
  exact ⟨⟨start.ancestors 10, start.isClimb_ancestors 9, rfl⟩,
    ⟨notes, last, searched, warned, searched.settled.level⟩, fun _ => search_congr⟩

/-- Directories `a/b/c/d` and a file `f` in `d`. No configuration lies in `d`, a directory of its
name in `c`, a broken one in `b` and a good one in `a`. -/
def manyStandings : FileSystem where
  tree :=
    let a := Text.encode "a"
    let b := Text.encode "b"
    let c := Text.encode "c"
    let d := Text.encode "d"
    ⟨[([a], .directory), ([a, b], .directory), ([a, b, c], .directory),
      ([a, b, c, d], .directory), ([a, b, c, d, Text.encode "f"], .file []),
      ([a, b, c, fileName], .directory), ([a, b, fileName], .file (Text.encode "not = [valid")),
      ([a, fileName], .file (Text.encode "split = [[\",\"]]\n"))]⟩
  workingDirectory := []

def manyStandingsBelowGood : FileSystem :=
  manyStandings.put [fileName] (.file (Text.encode "output = [\"json\"]\n"))

/-- Three of the first four candidates are broken, each in its own way, and the configuration in
the root is not looked at. -/
theorem loadFrom_manyStandings :
    reach manyStandings (candidates ⟨Text.encode "/a/b/c/d/f"⟩) = 4 ∧
      (loadFrom manyStandings ⟨Text.encode "/a/b/c/d/f"⟩).events.map Event.level =
        [.warn, .warn, .warn, .debug] ∧
      manyStandingsBelowGood.readText ⟨Text.encode "/.methodsig.toml"⟩ ≠
        manyStandings.readText ⟨Text.encode "/.methodsig.toml"⟩ ∧
      loadFrom manyStandingsBelowGood ⟨Text.encode "/a/b/c/d/f"⟩ =
        loadFrom manyStandings ⟨Text.encode "/a/b/c/d/f"⟩ := by
  refine ⟨by decide +kernel, by decide +kernel, by decide +kernel, ?_⟩
  apply (loadFrom_searched manyStandings ⟨Text.encode "/a/b/c/d/f"⟩).2.2
  decide +kernel

end Config

end MethodSignature
