import MethodSignature.Storage.Path
import MethodSignature.Proofs.Split.Runs
import Mathlib.Data.List.DropRight

/-!
What stands between the slashes of a path. A text is its segments joined, and the first segment
says what the path starts with: a slash, a `.` that counts as a name, or neither. The names are
the segments that are neither empty nor a `.`, but for that first one.
-/

namespace MethodSignature.Path

variable {octets : Bytes} {kept dropped : List Bytes} {name : Bytes} {p : Path}

theorem segments_eq_splitOn (octets : Bytes) : segments octets = octets.splitOn slash :=
  Split.pieces_beq slash octets

theorem segments_append_slash (a b : Bytes) :
    segments (a ++ slash :: b) = segments a ++ segments b := by
  simp only [segments_eq_splitOn, List.splitOn_append_cons_self]

theorem joinSegments_segments (octets : Bytes) : joinSegments (segments octets) = octets := by
  rw [segments_eq_splitOn]
  exact List.intercalate_splitOn slash

theorem joinSegments_append (front : kept ≠ []) (behind : dropped ≠ []) :
    joinSegments (kept ++ dropped) = joinSegments kept ++ slash :: joinSegments dropped := by
  obtain ⟨first, kept, rfl⟩ := List.exists_cons_of_ne_nil front
  obtain ⟨next, dropped, rfl⟩ := List.exists_cons_of_ne_nil behind
  simp only [joinSegments, List.cons_append, Split.intercalate_cons_eq_flatMap,
    List.flatMap_append, List.flatMap_cons, List.append_assoc, List.nil_append]

theorem segments_joinSegments (cut : segments octets = kept ++ dropped) (front : kept ≠ []) :
    segments (joinSegments kept) = kept := by
  rw [segments_eq_splitOn] at cut ⊢
  refine List.splitOn_intercalate slash (fun part mem => ?_) front
  exact Split.notMem_of_mem_splitOn (cut ▸ List.mem_append_left dropped mem)

theorem exists_trimEnd_append (parts : List Bytes) :
    ∃ rest, trimEnd parts ++ rest = parts ∧ rest.filter isName = [] := by
  refine ⟨parts.rtakeWhile (!isName ·), List.rdropWhile_append_rtakeWhile, ?_⟩
  refine List.filter_eq_nil_iff.mpr fun part mem => ?_
  simpa using List.mem_rtakeWhile_imp mem

theorem isName_of_trimEnd {parts : List Bytes} (trimmed : trimEnd parts = kept ++ [name]) :
    isName name = true := by
  change parts.rdropWhile (!isName ·) = kept ++ [name] at trimmed
  have stops := List.rdropWhile_last_not (!isName ·) parts (by simp [trimmed])
  simpa [trimmed] using stops

inductive Opening (p : Path) : Prop
  | slash (rooted : p.isRooted = true) (undotted : p.startsWithDot = false)
      (start : p.start = [Path.slash])
  | dot (unrooted : p.isRooted = false) (dotted : p.startsWithDot = true)
      (start : p.start = Path.dot)
  | neither (unrooted : p.isRooted = false) (undotted : p.startsWithDot = false)
      (start : p.start = [])

theorem opening (p : Path) : Opening p := by
  obtain ⟨octets⟩ := p
  by_cases rooted : isRooted ⟨octets⟩ = true
  · obtain ⟨t, rfl⟩ := List.head?_eq_some_iff.mp (beq_iff_eq.mp rooted)
    have front : segments (slash :: t) = [] :: segments t := segments_append_slash [] t
    have undotted : startsWithDot ⟨slash :: t⟩ = false := by
      rw [startsWithDot, front]
      rfl
    exact .slash rooted undotted rfl
  by_cases dotted : startsWithDot ⟨octets⟩ = true
  · obtain ⟨parts, cut⟩ := List.head?_eq_some_iff.mp (beq_iff_eq.mp dotted)
    rw [segments_eq_splitOn, Split.splitOn_eq_cons_iff] at cut
    obtain ⟨-, rfl⟩ := cut
    refine .dot rfl dotted ?_
    simp only [start, dotted, Bool.or_true, if_true]
    rfl
  · rw [Bool.not_eq_true] at rooted dotted
    exact .neither rooted dotted (by simp [start, rooted, dotted])

theorem start_append_body (p : Path) : p.start ++ p.body = p.octets := by
  unfold body start
  split
  · cases p.octets <;> rfl
  · rfl

theorem length_start (p : Path) :
    p.start.length = if p.isRooted || p.startsWithDot then 1 else 0 := by
  cases opening p with
  | slash rooted _ start => simp [rooted, start]
  | dot _ dotted start => simp [dotted, start, dot]
  | neither unrooted undotted start => simp [unrooted, undotted, start]

/-- Of what stands between slashes, the first counts as a name unless it is empty, every other
unless it is empty or a `.`. -/
theorem names_eq {first : Bytes} {rest : List Bytes} (cut : segments p.octets = first :: rest) :
    p.names = (if first = [] then [] else [first]) ++ rest.filter isName := by
  have whole := p.start_append_body
  cases opening p with
  | slash rooted undotted start =>
    have front : segments p.octets = [] :: segments p.body := by
      rw [← whole, start]
      exact segments_append_slash [] p.body
    obtain ⟨rfl, rfl⟩ := List.cons.inj (cut.symm.trans front)
    rw [names, undotted]
    rfl
  | dot unrooted dotted start =>
    have leads : first = dot := by
      rw [startsWithDot, cut] at dotted
      simpa using dotted
    subst leads
    rw [segments_eq_splitOn, Split.splitOn_eq_cons_iff, ← whole, start] at cut
    have inner : segments p.body = [] :: rest := by
      rw [segments_eq_splitOn]
      refine Split.splitOn_eq_cons_iff.mpr ⟨?_, List.append_cancel_left cut.2⟩
      exact List.forall_mem_cons.mpr ⟨List.not_mem_nil, (List.forall_mem_cons.mp cut.1).2⟩
    rw [names, dotted, inner]
    rfl
  | neither unrooted undotted start =>
    have inner : segments p.body = first :: rest := by
      rw [← cut, ← whole, start, List.nil_append]
    have other : first ≠ dot := by
      rw [startsWithDot, cut] at undotted
      simpa using undotted
    rw [names, undotted, inner]
    by_cases empty : first = []
    · subst empty
      rfl
    · have named : isName first = true := by simp [isName, empty, other]
      rw [List.filter_cons_of_pos named, if_neg empty]
      rfl

end MethodSignature.Path
