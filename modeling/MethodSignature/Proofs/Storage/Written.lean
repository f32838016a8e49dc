import MethodSignature.Proofs.Storage.Trail

/-!
A file that was written is found again. Opening a path and filling what was opened changes what
lies at one location, and the path still leads there; so reading it back gives what was written.
Where the path cannot be opened nothing changes. Where the write breaks off, a start of what was
to be written lies there, unless it is a device, which is as before.
-/

namespace MethodSignature.FileSystem

variable {fs other : FileSystem} {l : Location} {content : Bytes} {p : Path}

structure LeadsTo (fs : FileSystem) (p : Path) (l : Location) : Prop where
  located : fs.locate p = .ok (fs.leaf l)
  vacant : fs.tree.get? l ≠ some .directory
  slashless : ¬ endsInSlash p = true

theorem locateNames_eq_ok_iff {names : List Bytes} {place : Place} :
    fs.locateNames p names = .ok place ↔
      0 ∉ p.octets ∧ p.octets.length ≤ maxPathLength ∧ p.octets ≠ [] ∧
        fs.follow (if p.isRooted then [] else fs.workingDirectory) names = .ok place := by
  unfold locateNames
  split
  · simp_all
  split
  · rename_i long
    have tooLong : ¬ p.octets.length ≤ maxPathLength := Nat.not_le.mpr long
    simp [tooLong]
  split
  · simp_all
  · simp_all

theorem LeadsTo.unique (leads : fs.LeadsTo p l) {k : Location} (also : fs.LeadsTo p k) :
    k = l := by
  have same : fs.leaf k = fs.leaf l := Except.ok.inj (also.located.symm.trans leads.located)
  rw [← fs.leaf_location k, same, leaf_location]

theorem create_of_leadsTo (leads : fs.LeadsTo p l) : fs.create p = fs.openAt (fs.leaf l) := by
  rw [create_of_not_endsInSlash leads.slashless, leads.located]
  rfl

theorem find_of_located (located : fs.locate p = .ok (fs.leaf l))
    (slashless : ¬ endsInSlash p = true) {k : Location} {e : Entry} :
    fs.find p = .ok (k, e) ↔ k = l ∧ fs.tree.get? l = some e := by
  unfold find
  rw [located]
  unfold leaf
  cases held : fs.tree.get? l with
  | none => exact iff_of_false nofun nofun
  | some entry =>
    have found : (k = l ∧ some entry = some e) ↔ (l, entry) = (k, e) := by
      simp [eq_comm]
    rw [found]
    cases entry <;> simp [slashless, bind, Except.bind, pure, Except.pure]

theorem create_cases (fs : FileSystem) (p : Path) :
    (∃ cause, fs.create p = .error cause) ∨
      ∃ l, fs.LeadsTo p l ∧ fs.create p = fs.openAt (fs.leaf l) := by
  by_cases slash : endsInSlash p = true
  · exact .inl (create_of_endsInSlash slash fs)
  · rw [create_of_not_endsInSlash slash]
    cases found : fs.locate p with
    | error e => exact .inl ⟨e, rfl⟩
    | ok place =>
      have followed := (locateNames_eq_ok_iff.mp found).2.2.2
      rcases (trail_of_follow followed).ends_cases with directory | ⟨vacant, leaf⟩
      · rw [directory]
        exact .inl ⟨.isADirectory, rfl⟩
      · rw [leaf] at found
        exact .inr ⟨place.location, ⟨found, vacant, slash⟩, by rw [leaf, leaf_location]; rfl⟩

/-- Nothing is different but that a file lies at a location where no directory was. -/
structure Replaced (fs other : FileSystem) (l : Location) (content : Bytes) : Prop where
  workingDirectory : other.workingDirectory = fs.workingDirectory
  access : other.access = fs.access
  vacant : fs.tree.get? l ≠ some .directory
  here : other.tree.get? l = some (.file content)
  elsewhere : ∀ k, k ≠ l → other.tree.get? k = fs.tree.get? k

namespace Replaced

theorem agreeOutside (replaced : fs.Replaced other l content) :
    AgreeOutside (· = l) fs other := by
  have permitted (k : Location) : other.access k = fs.access k := congrFun replaced.access k
  have searchable (k : Location) : other.Searchable k ↔ fs.Searchable k := by
    rw [Searchable, Searchable, permitted]
  refine ⟨replaced.workingDirectory, fun k => ?_, searchable, replaced.elsewhere,
    fun k _ => permitted k⟩
  by_cases here : k = l
  · subst here
    rw [replaced.here]
    exact iff_of_false (by simp) replaced.vacant
  · rw [replaced.elsewhere k here]

theorem trail (replaced : fs.Replaced other l content) {directory : Location}
    {names : List Bytes} (trail : fs.Trail directory names (fs.leaf l)) :
    other.Trail directory names (.existing l (.file content)) := by
  have agree := replaced.agreeOutside
  have also {k : Location} : fs.Searchable k → other.Searchable k := (agree.searchable k).mpr
  generalize ends : fs.leaf l = place at trail
  induction trail with
  | here directory =>
    unfold FileSystem.leaf at ends
    split at ends
    · cases ends
      exact absurd ‹_› replaced.vacant
    · cases ends
  | dot searchable further ih => exact .dot (also searchable) (ih ends)
  | dotDot searchable further ih => exact .dotDot (also searchable) (ih ends)
  | into searchable named step inside further ih =>
    exact .into (also searchable) named ((agree.child _ _).trans step)
      ((agree.directories _).mpr inside) (ih ends)
  | @leaf directory location name searchable named step outside =>
    have same : location = l := by
      rw [← fs.leaf_location location, ← ends, leaf_location]
    subst same
    have final : other.leaf location = .existing location (.file content) := by
      rw [FileSystem.leaf, replaced.here]
    have still : other.tree.get? location ≠ some .directory :=
      fun also => outside ((agree.directories _).mp also)
    exact final ▸ .leaf (also searchable) named ((agree.child _ _).trans step) still

theorem locate (replaced : fs.Replaced other l content)
    (found : fs.locate p = .ok (fs.leaf l)) :
    other.locate p = .ok (.existing l (.file content)) := by
  obtain ⟨noNul, short, filled, followed⟩ := locateNames_eq_ok_iff.mp found
  have trail := replaced.trail (trail_of_follow followed)
  refine locateNames_eq_ok_iff.mpr ⟨noNul, short, filled, ?_⟩
  rw [replaced.workingDirectory]
  exact trail.follow_eq

theorem find (replaced : fs.Replaced other l content) (leads : fs.LeadsTo p l) :
    other.find p = .ok (l, .file content) := by
  have here : other.leaf l = .existing l (.file content) := by
    rw [FileSystem.leaf, replaced.here]
  have located := replaced.locate leads.located
  rw [← here] at located
  exact (find_of_located located leads.slashless).mpr ⟨rfl, replaced.here⟩

end Replaced

theorem readText_of_find {s : Text} (found : fs.find p = .ok (l, .file (Text.encode s)))
    (readable : (fs.access l).unreadable = none) : fs.readText p = .ok s := by
  unfold readText read
  rw [found]
  simp [bind, Except.bind, pure, Except.pure, readable, Text.decode?_encode]

structure Opens (fs : FileSystem) (p : Path) (l : Location) : Prop where
  leads : fs.LeadsTo p l
  writable : (fs.access l).unwritable = none

structure Takes (fs : FileSystem) (l : Location) : Prop where
  room : fs.tree.get? l ≠ some .fullDevice
  whole : (fs.access l).interrupted = none

/-- What a write leaves that broke off: a device is as it was, and a file, which may be new, holds
a start of what was to be written. -/
inductive Cut (fs after : FileSystem) (l : Location) (content : Bytes) : Prop
  | device (full : fs.tree.get? l = some .fullDevice) (kept : after = fs)
  | file {start : Bytes} (taken : start <+: content) (replaced : fs.Replaced after l start)

def emptied (fs : FileSystem) (l : Location) : FileSystem :=
  if fs.tree.get? l = some .fullDevice then fs else fs.put l (.file [])

theorem openAt_leaf (vacant : fs.tree.get? l ≠ some .directory) :
    fs.openAt (fs.leaf l) = fs.permit l (fs.emptied l) := by
  unfold leaf emptied
  split
  · rename_i entry present
    cases entry with
    | directory => exact absurd present vacant
    | fullDevice => rw [if_pos present]; rfl
    | file held => rw [if_neg (by simp [present])]; rfl
  · rename_i absent
    rw [if_neg (by simp [absent])]
    rfl

theorem opens_iff : fs.Opens p l ↔ fs.create p = .ok (fs.emptied l, l) ∧ fs.LeadsTo p l := by
  constructor
  · rintro ⟨leads, writable⟩
    refine ⟨?_, leads⟩
    rw [create_of_leadsTo leads, openAt_leaf leads.vacant, permit, writable]
  · rintro ⟨opened, leads⟩
    refine ⟨leads, ?_⟩
    rw [create_of_leadsTo leads, openAt_leaf leads.vacant, permit] at opened
    cases refusal : (fs.access l).unwritable with
    | none => rfl
    | some cause =>
      rw [refusal] at opened
      cases opened

theorem opens_cases (fs : FileSystem) (p : Path) :
    (∃ cause, fs.create p = .error cause) ∧ (∀ l, ¬ fs.Opens p l) ∨ ∃ l, fs.Opens p l := by
  rcases fs.create_cases p with ⟨cause, failed⟩ | ⟨l, leads, opens⟩
  · refine .inl ⟨⟨cause, failed⟩, fun l opens => ?_⟩
    have opened := (opens_iff.mp opens).1
    rw [failed] at opened
    cases opened
  · rw [openAt_leaf leads.vacant, permit] at opens
    cases refusal : (fs.access l).unwritable with
    | none => exact .inr ⟨l, leads, refusal⟩
    | some cause =>
      rw [refusal] at opens
      refine .inl ⟨⟨cause, opens⟩, fun k also => ?_⟩
      obtain rfl := leads.unique also.leads
      rw [also.writable] at refusal
      cases refusal

theorem replaced_emptied_put (vacant : fs.tree.get? l ≠ some .directory)
    (room : fs.tree.get? l ≠ some .fullDevice) (content : Bytes) :
    fs.Replaced ((fs.emptied l).put l (.file content)) l content := by
  have below : l ≠ [] := fun root => vacant (root ▸ fs.tree.get?_nil)
  unfold emptied
  rw [if_neg room]
  refine ⟨rfl, rfl, vacant, FileTree.get?_put_same _ _ below, fun k other => ?_⟩
  exact (FileTree.get?_put_other _ _ other).trans (FileTree.get?_put_other _ _ other)

theorem fill_emptied_cases (vacant : fs.tree.get? l ≠ some .directory) (nonempty : content ≠ []) :
    (∃ cause after, (fs.emptied l).fill l content = (.error cause, after) ∧ ¬ fs.Takes l ∧
        fs.Cut after l content) ∨
      ∃ after, (fs.emptied l).fill l content = (.ok (), after) ∧ fs.Takes l ∧
        fs.Replaced after l content := by
  by_cases device : fs.tree.get? l = some .fullDevice
  · refine .inl ⟨.deviceFull, fs, ?_, fun takes => takes.room device, .device device rfl⟩
    rw [emptied, if_pos device, fill, if_neg nonempty, if_pos device]
  have below : l ≠ [] := fun root => vacant (root ▸ fs.tree.get?_nil)
  have bare : (fs.emptied l).tree.get? l ≠ some .fullDevice := by
    rw [emptied, if_neg device, put, FileTree.get?_put_same _ _ below]
    simp
  have permitted : (fs.emptied l).access = fs.access := by
    rw [emptied, if_neg device]
    rfl
  rw [fill, if_neg nonempty, if_neg bare, permitted]
  cases breaks : (fs.access l).interrupted with
  | none =>
    exact .inr ⟨_, rfl, ⟨device, breaks⟩, replaced_emptied_put vacant device content⟩
  | some broken =>
    obtain ⟨taken, cause⟩ := broken
    have cut (takes : fs.Takes l) : False := by
      rw [takes.whole] at breaks
      cases breaks
    exact .inl ⟨cause, _, rfl, cut,
      .file (content.take_prefix taken) (replaced_emptied_put vacant device _)⟩

inductive Writing (fs : FileSystem) (p : Path) (content : Bytes) : Prop
  | refused {cause : StorageError} (failed : fs.create p = .error cause)
      (closed : ∀ l, ¬ fs.Opens p l)
  | cut {l : Location} {opened left : FileSystem} {cause : StorageError} (opens : fs.Opens p l)
      (created : fs.create p = .ok (opened, l))
      (broken : opened.fill l content = (.error cause, left)) (short : ¬ fs.Takes l)
      (cut : fs.Cut left l content)
  | done {l : Location} {opened written : FileSystem} (opens : fs.Opens p l)
      (created : fs.create p = .ok (opened, l))
      (filled : opened.fill l content = (.ok (), written)) (takes : fs.Takes l)
      (replaced : fs.Replaced written l content)

theorem writing (fs : FileSystem) (p : Path) (nonempty : content ≠ []) :
    fs.Writing p content := by
  rcases fs.opens_cases p with ⟨⟨cause, failed⟩, closed⟩ | ⟨l, opens⟩
  · exact .refused failed closed
  · have created := (opens_iff.mp opens).1
    rcases fill_emptied_cases opens.leads.vacant nonempty with
      ⟨cause, left, broken, short, cut⟩ | ⟨written, filled, takes, replaced⟩
    · exact .cut opens created broken short cut
    · exact .done opens created filled takes replaced

end MethodSignature.FileSystem
