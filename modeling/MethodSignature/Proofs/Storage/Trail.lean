import MethodSignature.Proofs.Split.Runs
import MethodSignature.Proofs.Storage.Agreement

/-!
Following names step by step. A trail is what following names amounts to when it succeeds: the
names `.` and `..` are walked through, every other name but the last leads into a directory, and
the last one to whatever lies there. A name joined to a path is one more step.
-/

namespace MethodSignature.FileSystem

variable {fs : FileSystem}

inductive Trail (fs : FileSystem) : Location → List Bytes → Place → Prop
  | here (directory : Location) : Trail fs directory [] (.existing directory .directory)
  | dot {directory : Location} {rest : List Bytes} {place : Place}
      (searchable : fs.Searchable directory) (further : Trail fs directory rest place) :
      Trail fs directory (Path.dot :: rest) place
  | dotDot {directory : Location} {rest : List Bytes} {place : Place}
      (searchable : fs.Searchable directory) (further : Trail fs directory.dropLast rest place) :
      Trail fs directory (Path.dotDot :: rest) place
  | into {directory location : Location} {name : Bytes} {rest : List Bytes} {place : Place}
      (searchable : fs.Searchable directory) (named : name ≠ Path.dot ∧ name ≠ Path.dotDot)
      (step : fs.child directory name = .ok location)
      (inside : fs.tree.get? location = some .directory)
      (further : Trail fs location rest place) : Trail fs directory (name :: rest) place
  | leaf {directory location : Location} {name : Bytes}
      (searchable : fs.Searchable directory) (named : name ≠ Path.dot ∧ name ≠ Path.dotDot)
      (step : fs.child directory name = .ok location)
      (ends : fs.tree.get? location ≠ some .directory) :
      Trail fs directory [name] (fs.leaf location)

theorem Trail.follow_eq {directory : Location} {names : List Bytes} {place : Place}
    (trail : fs.Trail directory names place) : fs.follow directory names = .ok place := by
  induction trail with
  | here directory => rfl
  | dot searchable further ih => rwa [follow_dot searchable]
  | dotDot searchable further ih => rwa [follow_dotDot searchable]
  | into searchable named step inside further ih =>
    rw [follow_cons searchable named, step]
    exact (enter_of_directory inside _).trans ih
  | leaf searchable named step ends =>
    rw [follow_cons searchable named, step]
    exact enter_nil ends

theorem trail_of_follow {directory : Location} {names : List Bytes} {place : Place}
    (found : fs.follow directory names = .ok place) : fs.Trail directory names place := by
  induction names generalizing directory with
  | nil =>
    rw [follow] at found
    cases found
    exact .here directory
  | cons name rest ih =>
    by_cases searchable : fs.Searchable directory
    case neg =>
      obtain ⟨e, failed⟩ := follow_of_not_searchable searchable name rest
      rw [failed] at found
      cases found
    by_cases dot : name = Path.dot
    · subst dot
      rw [follow_dot searchable] at found
      exact .dot searchable (ih found)
    by_cases dotDot : name = Path.dotDot
    · subst dotDot
      rw [follow_dotDot searchable] at found
      exact .dotDot searchable (ih found)
    rw [follow_cons searchable ⟨dot, dotDot⟩] at found
    cases step : fs.child directory name with
    | error e =>
      rw [step] at found
      cases found
    | ok location =>
      rw [step] at found
      have found : fs.enter location rest = .ok place := found
      by_cases inside : fs.tree.get? location = some .directory
      · rw [enter_of_directory inside] at found
        exact .into searchable ⟨dot, dotDot⟩ step inside (ih found)
      · cases rest with
        | nil =>
          rw [enter_nil inside] at found
          cases found
          exact .leaf searchable ⟨dot, dotDot⟩ step inside
        | cons next rest =>
          obtain ⟨e, failed⟩ := enter_cons inside next rest
          rw [failed] at found
          cases found

/-- A trail ends at a directory, or at what a location holds that is none. -/
theorem Trail.ends_cases {directory : Location} {names : List Bytes} {place : Place}
    (trail : fs.Trail directory names place) :
    place = .existing place.location .directory ∨
      fs.tree.get? place.location ≠ some .directory ∧ place = fs.leaf place.location := by
  induction trail with
  | here directory => exact .inl rfl
  | dot searchable further ih => exact ih
  | dotDot searchable further ih => exact ih
  | into searchable named step inside further ih => exact ih
  | leaf searchable named step ends =>
    rw [leaf_location]
    exact .inr ⟨ends, rfl⟩

namespace Trail

theorem append {directory l : Location} {names rest : List Bytes} {place : Place}
    (trail : fs.Trail directory names (.existing l .directory))
    (further : fs.Trail l rest place) : fs.Trail directory (names ++ rest) place := by
  generalize ends : Place.existing l .directory = reached at trail
  induction trail with
  | here directory =>
    cases ends
    exact further
  | dot searchable _ ih => exact .dot searchable (ih ends)
  | dotDot searchable _ ih => exact .dotDot searchable (ih ends)
  | into searchable named step inside _ ih => exact .into searchable named step inside (ih ends)
  | @leaf directory location name searchable named step outside =>
    unfold FileSystem.leaf at ends
    split at ends
    · cases ends
      exact absurd ‹_› outside
    · cases ends

theorem exists_of_append {directory : Location} {names rest : List Bytes} {place : Place}
    (later : rest ≠ []) (trail : fs.Trail directory (names ++ rest) place) :
    ∃ l, fs.Trail directory names (.existing l .directory) ∧ fs.Trail l rest place := by
  induction names generalizing directory with
  | nil => exact ⟨directory, .here directory, trail⟩
  | cons name names ih =>
    rw [List.cons_append] at trail
    generalize whole : names ++ rest = others at trail
    cases trail with
    | dot searchable further =>
      obtain ⟨l, first, second⟩ := ih (whole ▸ further)
      exact ⟨l, .dot searchable first, second⟩
    | dotDot searchable further =>
      obtain ⟨l, first, second⟩ := ih (whole ▸ further)
      exact ⟨l, .dotDot searchable first, second⟩
    | into searchable named step inside further =>
      obtain ⟨l, first, second⟩ := ih (whole ▸ further)
      exact ⟨l, .into searchable named step inside first, second⟩
    | leaf searchable named step outside =>
      exact absurd (List.append_eq_nil_iff.mp whole).2 later

end Trail

end MethodSignature.FileSystem
