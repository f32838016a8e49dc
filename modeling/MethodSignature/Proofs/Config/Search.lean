import MethodSignature.Config.Load

/-!
What the search for a configuration finds: the nearest candidate that is good. A broken file is
passed over like a missing one, so the defaults hold only where no good file lies further up, or
the good file says no more than they do.
-/

namespace MethodSignature.Config

inductive Standing where
  | good (c : Config)
  | missing
  | broken
deriving DecidableEq

def Standing.config? : Standing → Option Config
  | good c => some c
  | missing => none
  | broken => none

def standing (fs : FileSystem) (p : Path) : Standing :=
  match loadFile fs p with
  | .ok c => .good c
  | .error (.storage .notFound) => .missing
  | .error _ => .broken

theorem attempt_value (fs : FileSystem) (p : Path) :
    (attempt fs p).value = (standing fs p).config? := by
  unfold attempt standing
  split <;> simp_all [Standing.config?]

def nearest? (fs : FileSystem) (ps : List Path) : Option Config :=
  ps.findSome? fun p => (standing fs p).config?

theorem nearest?_cons_of_config? {fs : FileSystem} {p : Path}
    (skipped : (standing fs p).config? = none) (ps : List Path) :
    nearest? fs (p :: ps) = nearest? fs ps := by
  rw [nearest?, List.findSome?_cons, skipped]
  rfl

theorem nearest?_append_of_missing {fs : FileSystem} {before : List Path}
    (missing : ∀ p ∈ before, standing fs p = .missing) (ps : List Path) :
    nearest? fs (before ++ ps) = nearest? fs ps := by
  induction before with
  | nil => rfl
  | cons p before ih =>
    have here : standing fs p = .missing := missing p List.mem_cons_self
    rw [List.cons_append, nearest?_cons_of_config? (by rw [here]; rfl)]
    exact ih fun q mem => missing q (List.mem_cons_of_mem p mem)

theorem search_value (fs : FileSystem) (ps : List Path) :
    (search fs ps).value = (nearest? fs ps).getD default := by
  induction ps with
  | nil => rfl
  | cons p rest ih =>
    have tried := attempt_value fs p
    cases found : (standing fs p).config? with
    | none =>
      rw [found] at tried
      rw [nearest?_cons_of_config? found, ← ih]
      simp [search, tried]
    | some c =>
      rw [found] at tried
      simp [search, tried, nearest?, found]

/-- Where the nearest file there is is broken, the defaults hold exactly when the nearest good
file further up, if there is one, says the same as they do. -/
theorem loadFrom_eq_default_iff_of_broken {fs : FileSystem} {start p : Path}
    {before after : List Path} (order : candidates start = before ++ p :: after)
    (missing : ∀ q ∈ before, standing fs q = .missing) (broken : standing fs p = .broken) :
    (loadFrom fs start).value = default ↔ ∀ c ∈ nearest? fs after, c = default := by
  have found : (loadFrom fs start).value = (nearest? fs after).getD default := by
    rw [loadFrom, search_value, order, nearest?_append_of_missing missing,
      nearest?_cons_of_config? (by rw [broken]; rfl)]
  rw [found]
  cases nearest? fs after with
  | none => simp
  | some c => simp

def brokenAlone : FileSystem where
  tree := ⟨[([Text.encode "a"], .directory),
    ([Text.encode "a", fileName], .file (Text.encode "not = [valid"))]⟩
  workingDirectory := []

theorem loadFrom_brokenAlone :
    standing brokenAlone ⟨Text.encode "/a/.methodsig.toml"⟩ = .broken ∧
      (loadFrom brokenAlone ⟨Text.encode "/a"⟩).value = default := by
  have order : candidates ⟨Text.encode "/a"⟩ =
      [] ++ ⟨Text.encode "/a/.methodsig.toml"⟩ :: [⟨Text.encode "/.methodsig.toml"⟩] := by
    decide +kernel
  have broken : standing brokenAlone ⟨Text.encode "/a/.methodsig.toml"⟩ = .broken := by
    decide +kernel
  have alone : nearest? brokenAlone [⟨Text.encode "/.methodsig.toml"⟩] = none := by
    decide +kernel
  refine ⟨broken, (loadFrom_eq_default_iff_of_broken order (by simp) broken).mpr ?_⟩
  rw [alone]
  simp

def brokenBelowGood : FileSystem :=
  brokenAlone.put [fileName] (.file (Text.encode "[output]\ndefault_format = \"json\"\n"))

/-- The nearest file is broken, which is logged as a warning, but the file above it is used. -/
theorem loadFrom_brokenBelowGood :
    candidates ⟨Text.encode "/a"⟩ =
        [⟨Text.encode "/a/.methodsig.toml"⟩, ⟨Text.encode "/.methodsig.toml"⟩] ∧
      standing brokenBelowGood ⟨Text.encode "/a/.methodsig.toml"⟩ = .broken ∧
      (loadFrom brokenBelowGood ⟨Text.encode "/a"⟩).events =
        [.configInvalid (Error.toml.withContext "Invalid config file /a/.methodsig.toml"),
          .configLoaded "/.methodsig.toml"] ∧
      (loadFrom brokenBelowGood ⟨Text.encode "/a"⟩).events.map Event.level = [.warn, .debug] ∧
      (loadFrom brokenBelowGood ⟨Text.encode "/a"⟩).value ≠ default := by
  decide +kernel

end MethodSignature.Config
