import MethodSignature.Proofs.Storage.Segments

/-!
The walk from a path to its ancestors. Going to the parent cuts the text behind the last name but
one. What is left starts as the path does and has all its names but the last; so the walk has an
entry for each number of names, and stops where no name is left.
-/

namespace MethodSignature.Path

variable {kept dropped : List Bytes} {name : Bytes} {p q : Path} {n : Nat}

structure IsCut (p q : Path) : Prop where
  isRooted : q.isRooted = p.isRooted
  startsWithDot : q.startsWithDot = p.startsWithDot
  text : ∃ rest, rest ≠ [] ∧ p.octets = q.octets ++ rest

theorem isCut_start (p : Path) (left : p.body ≠ []) : IsCut p ⟨p.start⟩ := by
  have text : ∃ rest, rest ≠ [] ∧ p.octets = p.start ++ rest :=
    ⟨p.body, left, p.start_append_body.symm⟩
  cases opening p with
  | slash rooted undotted start =>
    exact ⟨by rw [start, rooted]; rfl, by rw [start, undotted]; rfl, text⟩
  | dot unrooted dotted start =>
    exact ⟨by rw [start, unrooted]; rfl, by rw [start, dotted]; rfl, text⟩
  | neither unrooted undotted start =>
    exact ⟨by rw [start, unrooted]; rfl, by rw [start, undotted]; rfl, text⟩

theorem isCut_of_slash {a b : Bytes} (whole : p.octets = a ++ slash :: b)
    (opened : p.isRooted = true → a ≠ []) : IsCut p ⟨a⟩ := by
  refine ⟨?_, ?_, slash :: b, List.cons_ne_nil _ _, whole⟩
  · cases a with
    | nil => exact absurd rfl (opened (by rw [isRooted, whole]; rfl))
    | cons first a => rw [isRooted, isRooted, whole, List.cons_append]; rfl
  · obtain ⟨first, rest, cut⟩ := List.exists_cons_of_ne_nil (Split.pieces_ne_nil (· == slash) a)
    have front : segments a = first :: rest := cut
    rw [startsWithDot, startsWithDot, whole, segments_append_slash, front]
    rfl

theorem isCut_joinSegments (cut : segments p.body = kept ++ dropped) (behind : name ∈ dropped)
    (filled : name ≠ []) : IsCut p ⟨p.start ++ joinSegments kept⟩ := by
  by_cases none : kept = []
  · rw [none, List.nil_append] at cut
    have left : p.body ≠ [] := by
      intro empty
      rw [← cut, empty] at behind
      exact filled (List.mem_singleton.mp behind)
    rw [none]
    simpa [joinSegments] using isCut_start p left
  · have whole : p.octets = p.start ++ joinSegments kept ++ slash :: joinSegments dropped := by
      rw [List.append_assoc, ← joinSegments_append none (List.ne_nil_of_mem behind), ← cut,
        joinSegments_segments, start_append_body]
    refine isCut_of_slash whole fun rooted empty => ?_
    have started := length_start p
    rw [(List.append_eq_nil_iff.mp empty).1, rooted] at started
    cases started

theorem IsCut.body_eq {r : Bytes} (isCut : IsCut p ⟨p.start ++ r⟩) :
    body ⟨p.start ++ r⟩ = r := by
  have same : (start ⟨p.start ++ r⟩).length = p.start.length := by
    rw [length_start, length_start, isCut.isRooted, isCut.startsWithDot]
  rw [body, same]
  exact List.drop_left

theorem names_joinSegments (cut : segments p.body = kept ++ dropped) (behind : name ∈ dropped)
    (filled : name ≠ []) :
    names ⟨p.start ++ joinSegments kept⟩ =
      (if p.startsWithDot then [dot] else []) ++ kept.filter isName := by
  have isCut := isCut_joinSegments cut behind filled
  rw [names, isCut.startsWithDot, isCut.body_eq]
  by_cases none : kept = []
  · rw [none]
    rfl
  · rw [segments_joinSegments cut none]

structure IsParent (p q : Path) : Prop where
  isRooted : q.isRooted = p.isRooted
  text : ∃ rest, rest ≠ [] ∧ p.octets = q.octets ++ rest
  names : ∃ name, p.names = q.names ++ [name]

theorem isParent_of_concat (trimmed : trimEnd (segments p.body) = kept ++ [name]) :
    IsParent p ⟨p.start ++ joinSegments (trimEnd kept)⟩ := by
  obtain ⟨rest, whole, behind⟩ := exists_trimEnd_append (segments p.body)
  obtain ⟨gap, front, between⟩ := exists_trimEnd_append kept
  have cut : segments p.body = trimEnd kept ++ (gap ++ name :: rest) := by
    rw [← List.append_assoc, front, ← whole, trimmed, List.append_assoc]
    rfl
  have named := isName_of_trimEnd trimmed
  have filled : name ≠ [] := by
    rintro rfl
    cases named
  have mem : name ∈ gap ++ name :: rest := List.mem_append_right gap List.mem_cons_self
  have isCut := isCut_joinSegments cut mem filled
  refine ⟨isCut.isRooted, isCut.text, name, ?_⟩
  rw [names_joinSegments cut mem filled, names, cut]
  simp [between, named, behind]

theorem isParent_of_dot (dotted : p.startsWithDot = true) (only : p.names = [dot]) :
    IsParent p ⟨[]⟩ := by
  cases opening p with
  | slash _ undotted _ => simp [dotted] at undotted
  | dot unrooted _ start =>
    refine ⟨unrooted.symm, ⟨p.octets, ?_, rfl⟩, dot, only⟩
    rw [← start_append_body, start]
    exact List.cons_ne_nil _ _
  | neither _ undotted _ => simp [dotted] at undotted

theorem parent?_cases (p : Path) :
    p.parent? = none ∧ p.names = [] ∨ ∃ q, p.parent? = some q ∧ IsParent p q := by
  rcases List.eq_nil_or_concat' (trimEnd (segments p.body)) with empty | ⟨front, name, trimmed⟩
  · have up : p.parent? = if p.startsWithDot then some ⟨[]⟩ else none := by
      rw [parent?, empty]
    have only : p.names = if p.startsWithDot then [dot] else [] := by
      obtain ⟨rest, whole, unnamed⟩ := exists_trimEnd_append (segments p.body)
      rw [names, ← whole, empty, List.nil_append, unnamed, List.append_nil]
    by_cases dotted : p.startsWithDot = true
    · rw [if_pos dotted] at up only
      exact .inr ⟨⟨[]⟩, up, isParent_of_dot dotted only⟩
    · rw [if_neg dotted] at up only
      exact .inl ⟨up, only⟩
  · have up : p.parent? = some ⟨p.start ++ joinSegments (trimEnd front)⟩ := by
      unfold parent?
      split
      · simp_all
      · rw [trimmed, List.dropLast_concat]
    exact .inr ⟨_, up, isParent_of_concat trimmed⟩

theorem ancestors_succ (p : Path) (n : Nat) :
    p.parent? = none ∧ p.names = [] ∧ p.ancestors (n + 1) = [p] ∨
      ∃ q, IsParent p q ∧ p.ancestors (n + 1) = p :: q.ancestors n := by
  rcases parent?_cases p with ⟨top, unnamed⟩ | ⟨q, up, isParent⟩
  · exact .inl ⟨top, unnamed, by rw [ancestors, top]⟩
  · exact .inr ⟨q, isParent, by rw [ancestors, up]⟩

theorem length_ancestors (p : Path) (n : Nat) :
    (p.ancestors n).length = min n (p.names.length + 1) := by
  induction n generalizing p with
  | zero => simp [ancestors]
  | succ n ih =>
    rcases ancestors_succ p n with ⟨-, unnamed, walk⟩ | ⟨q, isParent, walk⟩
    · simp [walk, unnamed]
    · obtain ⟨name, names⟩ := isParent.names
      simp only [walk, ih, names, List.length_cons, List.length_append, List.length_nil]
      omega

theorem isPrefix_of_mem_ancestors (mem : q ∈ p.ancestors n) : q.octets <+: p.octets := by
  induction n generalizing p with
  | zero => cases mem
  | succ n ih =>
    rcases ancestors_succ p n with ⟨-, -, walk⟩ | ⟨parent, isParent, walk⟩
    · rw [walk, List.mem_singleton] at mem
      exact mem ▸ List.prefix_rfl
    · rw [walk] at mem
      obtain ⟨rest, -, text⟩ := isParent.text
      rcases List.mem_cons.mp mem with rfl | further
      · exact List.prefix_rfl
      · exact (ih further).trans ⟨rest, text.symm⟩

theorem pairwise_ancestors (p : Path) (n : Nat) :
    (p.ancestors n).Pairwise fun q r => r.octets.length < q.octets.length := by
  induction n generalizing p with
  | zero => exact .nil
  | succ n ih =>
    rcases ancestors_succ p n with ⟨-, -, walk⟩ | ⟨parent, isParent, walk⟩
    · rw [walk]
      exact List.pairwise_singleton _ p
    · rw [walk]
      refine .cons (fun r mem => ?_) (ih parent)
      obtain ⟨rest, filled, text⟩ := isParent.text
      have above := (isPrefix_of_mem_ancestors mem).length_le
      have more := List.length_pos_of_ne_nil filled
      rw [text, List.length_append]
      omega

theorem take_ancestors (p : Path) (m n : Nat) :
    (p.ancestors n).take m = p.ancestors (min m n) := by
  induction n generalizing p m with
  | zero => simp [ancestors]
  | succ n ih =>
    cases m with
    | zero => simp [ancestors]
    | succ m =>
      rw [Nat.succ_min_succ, ancestors, ancestors, List.take_succ_cons]
      cases p.parent? with
      | none => rw [List.take_nil]
      | some q => rw [ih]

/-- Every entry starts as the path does and has lost one name for each step up to it. -/
theorem ancestors_getElem? {i : Nat} (entry : (p.ancestors n)[i]? = some q) :
    q.isRooted = p.isRooted ∧ q.names = p.names.take (p.names.length - i) := by
  induction n generalizing p i with
  | zero => simp [ancestors] at entry
  | succ n ih =>
    rcases ancestors_succ p n with ⟨-, unnamed, walk⟩ | ⟨parent, isParent, walk⟩
    · rw [walk, List.getElem?_singleton] at entry
      split at entry
      · cases entry
        simp [unnamed]
      · cases entry
    · rw [walk] at entry
      cases i with
      | zero =>
        cases entry
        simp
      | succ i =>
        obtain ⟨rooted, fewer⟩ := ih (p := parent) (i := i) entry
        obtain ⟨name, names⟩ := isParent.names
        refine ⟨rooted.trans isParent.isRooted, ?_⟩
        have same : p.names.length - (i + 1) = parent.names.length - i := by
          rw [names, List.length_append, List.length_singleton, Nat.add_sub_add_right]
        rw [fewer, same, names, List.take_append_of_le_length (Nat.sub_le _ _)]

/-- The walk has one entry more than the path has names, if it may, and starts at the path itself.
Each entry is a start of the path's text with its first names, one fewer at each step, and shorter
than the one before; a walk of fewer entries is where a longer one starts. -/
theorem ancestors_walk (p : Path) (n : Nat) :
    (∃ first rest, segments p.octets = first :: rest ∧
        p.names = (if first = [] then [] else [first]) ++ rest.filter isName) ∧
      (p.ancestors n).length = min n (p.names.length + 1) ∧
      (∀ first ∈ (p.ancestors n)[0]?, first = p) ∧
      (∀ i q, (p.ancestors n)[i]? = some q →
        q.octets <+: p.octets ∧ q.isRooted = p.isRooted ∧
          q.names = p.names.take (p.names.length - i)) ∧
      ((p.ancestors n).Pairwise fun q r => r.octets.length < q.octets.length) ∧
      ∀ m ≤ n, p.ancestors m = (p.ancestors n).take m := by
  obtain ⟨first, rest, cut⟩ :=
    List.exists_cons_of_ne_nil (Split.pieces_ne_nil (· == slash) p.octets)
  refine ⟨⟨first, rest, cut, names_eq cut⟩, p.length_ancestors n, ?_, fun i q entry => ?_,
    p.pairwise_ancestors n, ?_⟩
  · intro first entry
    cases n with
    | zero => cases entry
    | succ n => exact (Option.some.inj entry).symm
  · exact ⟨isPrefix_of_mem_ancestors (List.mem_of_getElem? entry), ancestors_getElem? entry⟩
  · intro m within
    rw [take_ancestors, Nat.min_eq_left within]

def untidy : Path := ⟨Text.encode ".//a/./../b//"⟩

theorem ancestors_untidy :
    untidy.names.length = 4 ∧ untidy ∈ (untidy.ancestors 4)[0]? ∧
      (untidy.ancestors 4)[2]? = some ⟨Text.encode ".//a"⟩ ∧
      names ⟨Text.encode ".//a"⟩ = untidy.names.take (4 - 2) ∧
      3 ≤ 4 ∧ untidy.ancestors 3 = (untidy.ancestors 4).take 3 := by
  obtain ⟨-, -, -, fewer, -, shorter⟩ := untidy.ancestors_walk 4
  have entry : (untidy.ancestors 4)[2]? = some ⟨Text.encode ".//a"⟩ := by decide
  exact ⟨by decide, by decide, entry, (fewer 2 _ entry).2.2, by decide, shorter 3 (by decide)⟩

end MethodSignature.Path
