import MethodSignature.Storage.FileSystem

/-!
File systems that agree but for what lies at some hidden locations, where there may be one file,
another or none, with or without leave to read it, but no directory in only one of them. Opening
a path that does not lead to a hidden location, and filling what was opened, succeeds in both or
in neither and keeps the agreement.
-/

namespace MethodSignature

/-- Both succeed with related results, or both fail, perhaps for different reasons. -/
inductive Alike {ε α β : Type} (R : α → β → Prop) : Except ε α → Except ε β → Prop
  | ok {a : α} {b : β} (related : R a b) : Alike R (.ok a) (.ok b)
  | error (e d : ε) : Alike R (.error e) (.error d)

theorem Alike.refl {ε α : Type} (x : Except ε α) : Alike Eq x x := by
  cases x with
  | ok a => exact .ok rfl
  | error e => exact .error e e

theorem Alike.bind {ε α β γ δ : Type} {R : α → β → Prop} {S : γ → δ → Prop}
    {x : Except ε α} {y : Except ε β} {f : α → Except ε γ} {g : β → Except ε δ}
    (alike : Alike R x y) (next : ∀ a b, x = .ok a → R a b → Alike S (f a) (g b)) :
    Alike S (x.bind f) (y.bind g) := by
  cases alike with
  | ok related => exact next _ _ rfl related
  | error e d => exact .error e d

namespace FileTree

theorem get?_nil (t : FileTree) : t.get? [] = some .directory := rfl

theorem get?_put_congr {t u : FileTree} {k : Location} (same : t.get? k = u.get? k)
    (l : Location) (e : Entry) : (t.put l e).get? k = (u.put l e).get? k := by
  by_cases root : k = []
  · rw [root, get?_nil, get?_nil]
  · by_cases here : k = l
    · subst here
      rw [get?_put_same t e root, get?_put_same u e root]
    · rw [get?_put_other t e here, get?_put_other u e here, same]

end FileTree

namespace FileSystem

def Place.location : Place → Location
  | existing location _ => location
  | free location => location

def leaf (fs : FileSystem) (location : Location) : Place :=
  match fs.tree.get? location with
  | some entry => .existing location entry
  | none => .free location

@[simp] theorem leaf_location (fs : FileSystem) (location : Location) :
    (fs.leaf location).location = location := by
  unfold leaf
  split <;> rfl

def enter (fs : FileSystem) (location : Location) (rest : List Bytes) :
    Except StorageError Place :=
  match fs.tree.get? location with
  | some .directory => fs.follow location rest
  | some entry => if rest.isEmpty then .ok (.existing location entry) else .error .notADirectory
  | none => if rest.isEmpty then .ok (.free location) else .error .notFound

def Searchable (fs : FileSystem) (directory : Location) : Prop :=
  (fs.access directory).unsearchable = none

section

variable {fs : FileSystem} {directory location : Location}

theorem follow_of_not_searchable (closed : ¬ fs.Searchable directory) (name : Bytes)
    (rest : List Bytes) :
    ∃ e, fs.follow directory (name :: rest) = .error e := by
  unfold follow
  cases refusal : (fs.access directory).unsearchable with
  | none => exact absurd refusal closed
  | some cause => exact ⟨cause, rfl⟩

theorem follow_dot (searchable : fs.Searchable directory) (rest : List Bytes) :
    fs.follow directory (Path.dot :: rest) = fs.follow directory rest := by
  rw [follow, searchable]
  exact if_pos rfl

theorem follow_dotDot (searchable : fs.Searchable directory) (rest : List Bytes) :
    fs.follow directory (Path.dotDot :: rest) = fs.follow directory.dropLast rest := by
  have other : Path.dotDot ≠ Path.dot := by decide
  rw [follow, searchable]
  exact (if_neg other).trans (if_pos rfl)

theorem follow_cons {name : Bytes}
    (searchable : fs.Searchable directory) (named : name ≠ Path.dot ∧ name ≠ Path.dotDot)
    (rest : List Bytes) :
    fs.follow directory (name :: rest) =
      (fs.child directory name).bind fun location => fs.enter location rest := by
  rw [follow, searchable]
  exact (if_neg named.1).trans (if_neg named.2)

theorem enter_of_directory (inside : fs.tree.get? location = some .directory)
    (rest : List Bytes) :
    fs.enter location rest = fs.follow location rest := by
  simp only [enter, inside]

theorem enter_nil (ends : fs.tree.get? location ≠ some .directory) :
    fs.enter location [] = .ok (fs.leaf location) := by
  unfold enter leaf
  split
  · exact absurd ‹_› ends
  · simp_all
  · simp_all

theorem enter_cons (ends : fs.tree.get? location ≠ some .directory) (name : Bytes)
    (rest : List Bytes) :
    ∃ e, fs.enter location (name :: rest) = .error e := by
  unfold enter
  split
  · exact absurd ‹_› ends
  · exact ⟨_, rfl⟩
  · exact ⟨_, rfl⟩

end

theorem create_of_endsInSlash {p : Path} (slash : endsInSlash p = true) (fs : FileSystem) :
    ∃ e, fs.create p = .error e := by
  unfold create
  rw [if_pos slash]
  cases fs.locateNames p (route p).dropLast with
  | error e => exact ⟨e, rfl⟩
  | ok place =>
    cases place with
    | free location => exact ⟨_, rfl⟩
    | existing location entry => cases entry <;> exact ⟨_, rfl⟩

theorem create_of_not_endsInSlash {p : Path} (slashless : ¬ endsInSlash p = true)
    (fs : FileSystem) : fs.create p = (fs.locate p).bind fs.openAt := by
  rw [create, if_neg slashless]
  rfl

/-- Everything is the same in both but the files at hidden locations and what may be done with
them. -/
structure AgreeOutside (hidden : Location → Prop) (fs other : FileSystem) : Prop where
  workingDirectory : other.workingDirectory = fs.workingDirectory
  directories : ∀ l, other.tree.get? l = some .directory ↔ fs.tree.get? l = some .directory
  searchable : ∀ l, other.Searchable l ↔ fs.Searchable l
  elsewhere : ∀ l, ¬ hidden l → other.tree.get? l = fs.tree.get? l
  access : ∀ l, ¬ hidden l → other.access l = fs.access l

theorem agreeOutside_put {hidden : Location → Prop} {l : Location} (covered : hidden l) {e : Entry}
    (file : e ≠ .directory) {fs : FileSystem} (vacant : fs.tree.get? l ≠ some .directory) :
    AgreeOutside hidden fs (fs.put l e) := by
  refine ⟨rfl, fun k => ?_, fun _ => Iff.rfl, fun k outside => ?_, fun _ _ => rfl⟩
  · by_cases here : k = l
    · subst here
      have below : k ≠ [] := fun root => vacant (root ▸ fs.tree.get?_nil)
      rw [put, FileTree.get?_put_same _ _ below]
      simp [file, vacant]
    · rw [put, FileTree.get?_put_other _ _ here]
  · exact FileTree.get?_put_other _ _ fun same => outside (same ▸ covered)

namespace AgreeOutside

variable {hidden : Location → Prop} {fs other : FileSystem}

theorem put (agree : AgreeOutside hidden fs other) (l : Location) (e : Entry) :
    AgreeOutside hidden (fs.put l e) (other.put l e) := by
  refine ⟨agree.workingDirectory, fun k => ?_, agree.searchable, fun k outside => ?_,
    agree.access⟩
  · unfold FileSystem.put
    by_cases here : k = l
    · subst here
      by_cases root : k = []
      · rw [root, FileTree.get?_nil, FileTree.get?_nil]
      · rw [FileTree.get?_put_same _ _ root, FileTree.get?_put_same _ _ root]
    · rw [FileTree.get?_put_other _ _ here, FileTree.get?_put_other _ _ here]
      exact agree.directories k
  · exact FileTree.get?_put_congr (agree.elsewhere k outside) l e

theorem child (agree : AgreeOutside hidden fs other) (directory : Location) (name : Bytes) :
    other.child directory name = fs.child directory name := by
  simp only [FileSystem.child, ne_eq, agree.directories]

theorem leaf (agree : AgreeOutside hidden fs other) {location : Location}
    (outside : ¬ hidden location) : other.leaf location = fs.leaf location := by
  unfold FileSystem.leaf
  rw [agree.elsewhere location outside]

/-- Where a path breaks off, a hidden location may change the reason, but nothing else. -/
theorem follow (agree : AgreeOutside hidden fs other) {directory : Location}
    {names : List Bytes}
    (outside : ∀ place, fs.follow directory names = .ok place → ¬ hidden place.location) :
    Alike Eq (fs.follow directory names) (other.follow directory names) := by
  induction names generalizing directory with
  | nil => exact .ok rfl
  | cons name rest ih =>
    by_cases searchable : fs.Searchable directory
    case neg =>
      have closed : ¬ other.Searchable directory := mt (agree.searchable _).mp searchable
      obtain ⟨e, first⟩ := follow_of_not_searchable searchable name rest
      obtain ⟨d, second⟩ := follow_of_not_searchable closed name rest
      rw [first, second]
      exact .error e d
    have also := (agree.searchable directory).mpr searchable
    by_cases dot : name = Path.dot
    · subst dot
      rw [follow_dot searchable] at outside
      rw [follow_dot searchable, follow_dot also]
      exact ih outside
    by_cases dotDot : name = Path.dotDot
    · subst dotDot
      rw [follow_dotDot searchable] at outside
      rw [follow_dotDot searchable, follow_dotDot also]
      exact ih outside
    rw [follow_cons searchable ⟨dot, dotDot⟩] at outside
    rw [follow_cons searchable ⟨dot, dotDot⟩, follow_cons also ⟨dot, dotDot⟩, agree.child]
    refine (Alike.refl _).bind fun location _ step same => ?_
    subst same
    rw [step] at outside
    have outside : ∀ place, fs.enter location rest = .ok place → ¬ hidden place.location :=
      outside
    by_cases inside : fs.tree.get? location = some .directory
    · rw [enter_of_directory inside] at outside
      rw [enter_of_directory inside, enter_of_directory ((agree.directories _).mpr inside)]
      exact ih outside
    · have ends : other.tree.get? location ≠ some .directory :=
        fun also => inside ((agree.directories _).mp also)
      cases rest with
      | nil =>
        have seen : ¬ hidden location := fs.leaf_location location ▸ outside _ (enter_nil inside)
        rw [enter_nil inside, enter_nil ends, agree.leaf seen]
        exact .ok rfl
      | cons next rest =>
        obtain ⟨e, first⟩ := enter_cons inside next rest
        obtain ⟨d, second⟩ := enter_cons ends next rest
        rw [first, second]
        exact .error e d

theorem locate (agree : AgreeOutside hidden fs other) {p : Path}
    (outside : ∀ place, fs.locate p = .ok place → ¬ hidden place.location) :
    Alike Eq (fs.locate p) (other.locate p) := by
  unfold FileSystem.locate locateNames at outside ⊢
  split
  · exact .error _ _
  split
  · exact .error _ _
  split
  · exact .error _ _
  · simp only [*, if_false] at outside
    rw [agree.workingDirectory]
    exact agree.follow outside

theorem permit (agree : AgreeOutside hidden fs other) {l : Location} (outside : ¬ hidden l)
    {opened reopened : FileSystem} (next : AgreeOutside hidden opened reopened) :
    Alike (fun a b => b.2 = a.2 ∧ ¬ hidden a.2 ∧ AgreeOutside hidden a.1 b.1)
      (fs.permit l opened) (other.permit l reopened) := by
  unfold FileSystem.permit
  rw [agree.access l outside]
  cases (fs.access l).unwritable with
  | none => exact .ok ⟨rfl, outside, next⟩
  | some cause => exact .error _ _

theorem openAt (agree : AgreeOutside hidden fs other) {place : Place}
    (outside : ¬ hidden place.location) :
    Alike (fun a b => b.2 = a.2 ∧ ¬ hidden a.2 ∧ AgreeOutside hidden a.1 b.1)
      (fs.openAt place) (other.openAt place) := by
  cases place with
  | free location => exact agree.permit outside (agree.put _ _)
  | existing location entry =>
    cases entry with
    | directory => exact .error _ _
    | fullDevice => exact agree.permit outside agree
    | file content => exact agree.permit outside (agree.put _ _)

theorem create (agree : AgreeOutside hidden fs other) {p : Path}
    (outside : ∀ place, fs.locate p = .ok place → ¬ hidden place.location) :
    Alike (fun a b => b.2 = a.2 ∧ ¬ hidden a.2 ∧ AgreeOutside hidden a.1 b.1)
      (fs.create p) (other.create p) := by
  by_cases slash : endsInSlash p = true
  · obtain ⟨e, first⟩ := create_of_endsInSlash slash fs
    obtain ⟨d, second⟩ := create_of_endsInSlash slash other
    rw [first, second]
    exact .error e d
  · rw [create_of_not_endsInSlash slash, create_of_not_endsInSlash slash]
    refine (agree.locate outside).bind fun place _ found same => ?_
    subst same
    exact agree.openAt (outside place found)

/-- Filling comes to the same, be it with different octets, unless only one is left empty. -/
theorem fill (agree : AgreeOutside hidden fs other) {l : Location} (outside : ¬ hidden l)
    {content second : Bytes} (empty : second = [] ↔ content = []) :
    (other.fill l second).1 = (fs.fill l content).1 ∧
      (second = content → AgreeOutside hidden (fs.fill l content).2 (other.fill l second).2) := by
  unfold FileSystem.fill
  rw [agree.elsewhere l outside, agree.access l outside]
  by_cases nothing : content = []
  · rw [if_pos nothing, if_pos (empty.mpr nothing)]
    exact ⟨rfl, fun _ => agree⟩
  rw [if_neg nothing, if_neg (mt empty.mp nothing)]
  split
  · exact ⟨rfl, fun _ => agree⟩
  split
  · exact ⟨rfl, fun same => same ▸ agree.put _ _⟩
  · exact ⟨rfl, fun same => same ▸ agree.put _ _⟩

end AgreeOutside

end FileSystem

end MethodSignature
