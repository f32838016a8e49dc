import Mathlib.Data.List.Basic
import MethodSignature.Proofs.Storage.Segments
import MethodSignature.Proofs.Storage.Written

/-!
A name joined to the path of a directory. The joined path has one more name than the path and
starts where it starts, so it leads to that name in the directory, provided that it is not too
long.
-/

namespace MethodSignature

namespace Path

structure IsFileName (name : Bytes) : Prop where
  nonempty : name ≠ []
  single : slash ∉ name
  noNul : 0 ∉ name
  named : name ≠ dot ∧ name ≠ dotDot
  short : name.length ≤ maxNameLength

theorem join_cases (octets name : Bytes) :
    octets = [] ∧ join ⟨octets⟩ name = ⟨name⟩ ∨
      (∃ front, octets = front ++ [slash] ∧ join ⟨octets⟩ name = ⟨front ++ slash :: name⟩) ∨
      octets ≠ [] ∧ join ⟨octets⟩ name = ⟨octets ++ slash :: name⟩ := by
  by_cases empty : octets = []
  · exact .inl ⟨empty, by simp [join, empty]⟩
  by_cases last : octets.getLast? = some slash
  · obtain ⟨front, same⟩ := List.getLast?_eq_some_iff.mp last
    exact .inr (.inl ⟨front, same, by simp [join, same]⟩)
  · exact .inr (.inr ⟨empty, by simp [join, empty, last]⟩)

end Path

namespace FileSystem

open MethodSignature.Path (slash)

variable {fs : FileSystem} {name : Bytes}

theorem route_append_slash (a b : Bytes) : route ⟨a ++ slash :: b⟩ = route ⟨a⟩ ++ route ⟨b⟩ := by
  rw [route, Path.segments_append_slash, List.filter_append]
  rfl

theorem route_name (isName : Path.IsFileName name) : route ⟨name⟩ = [name] := by
  have whole : Split.pieces (· == slash) name = [name] := by
    rw [Split.pieces_eq_splitOnP]
    apply List.splitOnP_eq_singleton
    intro b mem
    have other : b ≠ slash := fun same => isName.single (same ▸ mem)
    simpa using other
  rw [route, Path.segments, whole]
  simp [isName.nonempty]

theorem route_join (d : Path) (isName : Path.IsFileName name) :
    route (d.join name) = route d ++ [name] := by
  obtain ⟨octets⟩ := d
  have trailing (front : Bytes) : route ⟨front ++ [slash]⟩ = route ⟨front⟩ := by
    rw [route_append_slash]
    exact List.append_nil _
  rcases Path.join_cases octets name with ⟨rfl, joined⟩ | ⟨front, rfl, joined⟩ | ⟨-, joined⟩
  · rw [joined, route_name isName]
    rfl
  · rw [joined, route_append_slash, route_name isName, trailing]
  · rw [joined, route_append_slash, route_name isName]

theorem isRooted_join (d : Path) (isName : Path.IsFileName name) :
    (d.join name).isRooted = d.isRooted := by
  obtain ⟨octets⟩ := d
  rcases Path.join_cases octets name with ⟨rfl, joined⟩ | ⟨front, rfl, joined⟩ | ⟨filled, joined⟩
  · rw [joined]
    cases name with
    | nil => exact absurd rfl isName.nonempty
    | cons b rest =>
      have other : b ≠ slash := fun same => isName.single (same ▸ List.mem_cons_self)
      simp [Path.isRooted, other]
  · rw [joined]
    cases front <;> simp [Path.isRooted]
  · rw [joined]
    cases octets with
    | nil => exact absurd rfl filled
    | cons b rest => simp [Path.isRooted]

theorem not_endsInSlash_join (d : Path) (isName : Path.IsFileName name) :
    ¬ endsInSlash (d.join name) = true := by
  obtain ⟨octets⟩ := d
  have ends (front : Bytes) : (front ++ name).getLast? ≠ some slash := by
    rw [List.getLast?_append_of_ne_nil _ isName.nonempty]
    exact fun last => isName.single (List.mem_of_getLast? last)
  have behind (front : Bytes) : (front ++ slash :: name).getLast? ≠ some slash := by
    rw [List.append_cons]
    exact ends _
  rcases Path.join_cases octets name with ⟨rfl, joined⟩ | ⟨front, rfl, joined⟩ | ⟨-, joined⟩
  · rw [joined]
    simpa [endsInSlash] using ends []
  · rw [joined]
    simpa [endsInSlash] using behind front
  · rw [joined]
    simpa [endsInSlash] using behind octets

theorem octets_join_ne_nil (d : Path) (isName : Path.IsFileName name) :
    (d.join name).octets ≠ [] := by
  obtain ⟨octets⟩ := d
  rcases Path.join_cases octets name with ⟨rfl, joined⟩ | ⟨front, rfl, joined⟩ | ⟨-, joined⟩
  · rw [joined]
    exact isName.nonempty
  · simp [joined]
  · simp [joined]

theorem length_le_length_join (d : Path) (name : Bytes) :
    d.octets.length ≤ (d.join name).octets.length := by
  unfold Path.join
  split
  · simp
  · simp

theorem nul_mem_join_iff (d : Path) (isName : Path.IsFileName name) :
    0 ∈ (d.join name).octets ↔ 0 ∈ d.octets := by
  obtain ⟨octets⟩ := d
  have noSlash : (0 : UInt8) ≠ slash := by decide
  rcases Path.join_cases octets name with ⟨rfl, joined⟩ | ⟨front, rfl, joined⟩ | ⟨-, joined⟩
  · simp [joined, isName.noNul]
  · simp [joined, isName.noNul, noSlash]
  · simp [joined, isName.noNul, noSlash]

theorem find_eq_directory_iff {d : Path} {l : Location} :
    fs.find d = .ok (l, .directory) ↔ fs.locate d = .ok (.existing l .directory) := by
  unfold find
  cases fs.locate d with
  | error e => exact iff_of_false nofun nofun
  | ok place =>
    cases place with
    | free k => exact iff_of_false nofun nofun
    | existing k entry =>
      -- a trailing slash decides whether a file is refused; a directory is found in neither case
      cases entry <;> cases endsInSlash d <;>
        simp [bind, Except.bind, pure, Except.pure, throw, throwThe, MonadExceptOf.throw]

/-- The path names a directory that is still there; the empty path stands for the working
directory. -/
structure IsDirectory (fs : FileSystem) (d : Path) (l : Location) : Prop where
  found : fs.find d = .ok (l, .directory) ∨ d = ⟨[]⟩ ∧ l = fs.workingDirectory
  present : fs.tree.get? l = some .directory

theorem child_eq_ok_iff {directory location : Location} :
    fs.child directory name = .ok location ↔
      (fs.tree.get? directory = some .directory ∧ name.length ≤ maxNameLength) ∧
        location = directory ++ [name] := by
  unfold child
  split
  · simp_all
  split
  · rename_i long
    have tooLong : ¬ name.length ≤ maxNameLength := Nat.not_le.mpr long
    simp [tooLong]
  · simp_all [eq_comm]

theorem trail_name_iff (isName : Path.IsFileName name) {l : Location} {place : Place} :
    fs.Trail l [name] place ↔
      fs.tree.get? l = some .directory ∧ fs.Searchable l ∧ place = fs.leaf (l ++ [name]) := by
  constructor
  · intro trail
    cases trail with
    | dot searchable further => exact absurd rfl isName.named.1
    | dotDot searchable further => exact absurd rfl isName.named.2
    | into searchable named step inside further =>
      obtain ⟨present, rfl⟩ := child_eq_ok_iff.mp step
      cases further
      exact ⟨present.1, searchable, by rw [leaf, inside]⟩
    | leaf searchable named step ends =>
      obtain ⟨present, rfl⟩ := child_eq_ok_iff.mp step
      exact ⟨present.1, searchable, rfl⟩
  · rintro ⟨present, searchable, rfl⟩
    have step := child_eq_ok_iff.mpr ⟨⟨present, isName.short⟩, rfl⟩
    by_cases inside : fs.tree.get? (l ++ [name]) = some .directory
    · rw [leaf, inside]
      exact .into searchable isName.named step inside (.here _)
    · exact .leaf searchable isName.named step inside

theorem locate_join_iff (d : Path) (isName : Path.IsFileName name) {place : Place} :
    fs.locate (d.join name) = .ok place ↔
      (d.join name).octets.length ≤ maxPathLength ∧
        ∃ l, fs.IsDirectory d l ∧ fs.Searchable l ∧ place = fs.leaf (l ++ [name]) := by
  rw [locate, locateNames_eq_ok_iff, nul_mem_join_iff d isName, isRooted_join d isName,
    route_join d isName]
  constructor
  · rintro ⟨noNul, short, -, found⟩
    obtain ⟨l, toDirectory, last⟩ := (trail_of_follow found).exists_of_append (by simp)
    obtain ⟨present, searchable, final⟩ := (trail_name_iff isName).mp last
    refine ⟨short, l, ⟨?_, present⟩, searchable, final⟩
    by_cases filled : d.octets = []
    · obtain ⟨octets⟩ := d
      subst filled
      cases toDirectory.follow_eq
      exact .inr ⟨rfl, rfl⟩
    · have dShort := Nat.le_trans (length_le_length_join d name) short
      have located := locateNames_eq_ok_iff.mpr ⟨noNul, dShort, filled, toDirectory.follow_eq⟩
      exact .inl (find_eq_directory_iff.mpr located)
  · rintro ⟨short, l, ⟨found, present⟩, searchable, rfl⟩
    have last := (trail_name_iff isName).mpr ⟨present, searchable, rfl⟩
    rcases found with found | ⟨rfl, rfl⟩
    · have located := find_eq_directory_iff.mp found
      obtain ⟨noNul, -, -, followed⟩ := locateNames_eq_ok_iff.mp located
      have whole := (trail_of_follow followed).append last
      exact ⟨noNul, short, octets_join_ne_nil d isName, whole.follow_eq⟩
    · exact ⟨nofun, short, octets_join_ne_nil _ isName, last.follow_eq⟩

/-- The system lets the name be opened for writing in the directory, and it is not the name of a
directory. -/
structure Writable (fs : FileSystem) (directory : Location) (name : Bytes) : Prop where
  searchable : fs.Searchable directory
  vacant : fs.tree.get? (directory ++ [name]) ≠ some .directory
  writable : (fs.access (directory ++ [name])).unwritable = none

theorem opens_join_iff (d : Path) (isName : Path.IsFileName name) {k : Location} :
    fs.Opens (d.join name) k ↔
      (d.join name).octets.length ≤ maxPathLength ∧
        ∃ l, fs.IsDirectory d l ∧ fs.Writable l name ∧ k = l ++ [name] := by
  constructor
  · rintro ⟨leads, writable⟩
    obtain ⟨short, l, directory, searchable, same⟩ := (locate_join_iff d isName).mp leads.located
    have ends : k = l ++ [name] := by
      rw [← fs.leaf_location k, same, leaf_location]
    subst ends
    exact ⟨short, l, directory, ⟨searchable, leads.vacant, writable⟩, rfl⟩
  · rintro ⟨short, l, directory, ⟨searchable, vacant, writable⟩, rfl⟩
    have located := (locate_join_iff d isName).mpr ⟨short, l, directory, searchable, rfl⟩
    exact ⟨⟨located, vacant, not_endsInSlash_join d isName⟩, writable⟩

end FileSystem

end MethodSignature
