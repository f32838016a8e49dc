import MethodSignature.Split

/-!
The maximal runs of a text. `IsRuns` says which words they are without splitting anything;
the splitter returns exactly these, and words joined by single cut points are found again.
-/

namespace MethodSignature.Split

theorem pieces_eq_splitOnP {α : Type} (isCut : α → Bool) (s : List α) :
    pieces isCut s = s.splitOnP isCut := by
  induction s with
  | nil => rw [pieces, List.splitOnP_nil]
  | cons c s ih => rw [pieces, List.splitOnP_cons_eq_if_modifyHead, ih]

theorem pieces_beq {α : Type} [BEq α] (c : α) (s : List α) :
    pieces (· == c) s = s.splitOn c := by
  rw [pieces_eq_splitOnP, List.splitOn_eq_splitOnP]

theorem exists_splitOn_eq_cons {α : Type} [BEq α] (c : α) (s : List α) :
    ∃ first rest, s.splitOn c = first :: rest :=
  List.exists_cons_of_ne_nil (List.splitOn_ne_nil c s)

theorem notMem_of_mem_splitOn {α : Type} [BEq α] [LawfulBEq α] {c : α} {s w : List α}
    (mem : w ∈ s.splitOn c) : c ∉ w := by
  induction s generalizing w with
  | nil =>
      rw [List.splitOn_nil, List.mem_singleton] at mem
      exact mem ▸ List.not_mem_nil
  | cons d s ih =>
      rw [List.splitOn_cons_eq_if_modifyHead] at mem
      split at mem
      · rcases List.mem_cons.mp mem with rfl | later
        · exact List.not_mem_nil
        · exact ih later
      · rename_i other
        obtain ⟨first, rest, split⟩ := exists_splitOn_eq_cons c s
        rw [split, List.modifyHead_cons] at mem
        rcases List.mem_cons.mp mem with rfl | later
        · rw [List.mem_cons, not_or]
          exact ⟨fun same => other (by simp [same]), ih (split ▸ List.mem_cons_self)⟩
        · exact ih (split ▸ List.mem_cons_of_mem first later)

theorem intercalate_cons_eq_flatMap {α : Type} (sep first : List α) (rest : List (List α)) :
    sep.intercalate (first :: rest) = first ++ rest.flatMap (sep ++ ·) := by
  induction rest generalizing first with
  | nil => simp
  | cons w rest ih =>
      rw [List.intercalate_cons_cons, ih, List.flatMap_cons, List.append_assoc, List.append_assoc]

theorem mem_of_mem_intercalate {c : Char} {sep : Text} {ws : List Text}
    (mem : c ∈ sep.intercalate ws) : c ∈ sep ∨ ∃ w ∈ ws, c ∈ w := by
  cases ws with
  | nil => simp at mem
  | cons first rest =>
      rw [intercalate_cons_eq_flatMap, List.mem_append, List.mem_flatMap] at mem
      rcases mem with here | ⟨w, later, inside⟩
      · exact .inr ⟨first, List.mem_cons_self, here⟩
      · rcases List.mem_append.mp inside with between | here
        · exact .inl between
        · exact .inr ⟨w, List.mem_cons_of_mem first later, here⟩

theorem splitOn_eq_cons_iff {α : Type} [BEq α] [LawfulBEq α] {c : α} {s first : List α}
    {rest : List (List α)} :
    s.splitOn c = first :: rest ↔
      (∀ w ∈ first :: rest, c ∉ w) ∧ s = first ++ rest.flatMap (c :: ·) := by
  have joined : [c].intercalate (first :: rest) = first ++ rest.flatMap (c :: ·) :=
    intercalate_cons_eq_flatMap [c] first rest
  rw [← joined]
  constructor
  · intro split
    rw [← split]
    exact ⟨fun w => notMem_of_mem_splitOn, (List.intercalate_splitOn c).symm⟩
  · rintro ⟨clean, rfl⟩
    exact List.splitOn_intercalate c clean (List.cons_ne_nil first rest)

/-- `IsRuns isCut s ws`: cut points aside, `s` consists of the words `ws` in this order, and each
word ends only where the text ends or a cut point follows. -/
inductive IsRuns (isCut : Char → Bool) : Text → List Text → Prop
  | gap {d : Text} (cuts : ∀ c ∈ d, isCut c = true) : IsRuns isCut d []
  | run {d w s : Text} {ws : List Text} (cuts : ∀ c ∈ d, isCut c = true)
      (nonempty : w ≠ []) (uncut : ∀ c ∈ w, isCut c = false)
      (ends : ∀ c ∈ s.head?, isCut c = true) (rest : IsRuns isCut s ws) :
      IsRuns isCut (d ++ w ++ s) (w :: ws)

variable {isCut : Char → Bool}

theorem runs_cons_of_cut {c : Char} (cut : isCut c = true) (s : Text) :
    runs isCut (c :: s) = runs isCut s := by
  simp [runs, pieces, cut]

theorem runs_cuts_append {d : Text} (cuts : ∀ c ∈ d, isCut c = true) (s : Text) :
    runs isCut (d ++ s) = runs isCut s := by
  induction d with
  | nil => rfl
  | cons c d ih =>
      rw [List.cons_append, runs_cons_of_cut (cuts c List.mem_cons_self)]
      exact ih fun e he => cuts e (List.mem_cons_of_mem c he)

theorem runs_word_append {w s : Text} (nonempty : w ≠ []) (uncut : ∀ c ∈ w, isCut c = false)
    (ends : ∀ c ∈ s.head?, isCut c = true) : runs isCut (w ++ s) = w :: runs isCut s := by
  have kept : (!w.isEmpty) = true := by simpa using nonempty
  cases s with
  | nil =>
      rw [List.append_nil, runs, pieces_eq_splitOnP, List.splitOnP_eq_singleton uncut]
      simp [kept, runs, pieces]
  | cons c s =>
      have cut : isCut c = true := ends c rfl
      rw [runs_cons_of_cut cut, runs, pieces_eq_splitOnP,
        List.splitOnP_append_cons_of_forall_mem uncut c cut, ← pieces_eq_splitOnP]
      exact List.filter_cons_of_pos kept

theorem runs_eq_of_isRuns {s : Text} {ws : List Text} (h : IsRuns isCut s ws) :
    runs isCut s = ws := by
  induction h with
  | gap cuts => simpa [runs, pieces] using runs_cuts_append cuts []
  | run cuts nonempty uncut ends _ ih =>
      rw [List.append_assoc, runs_cuts_append cuts, runs_word_append nonempty uncut ends, ih]

theorem IsRuns.cons_of_cut {c : Char} {s : Text} {ws : List Text} (cut : isCut c = true)
    (h : IsRuns isCut s ws) : IsRuns isCut (c :: s) ws := by
  cases h with
  | gap cuts => exact .gap (List.forall_mem_cons.mpr ⟨cut, cuts⟩)
  | run cuts nonempty uncut ends rest =>
      exact .run (List.forall_mem_cons.mpr ⟨cut, cuts⟩) nonempty uncut ends rest

/-- A character that is no cut point joins the word that follows it at once, or is a word. -/
theorem IsRuns.cons_of_uncut {c : Char} {s : Text} {ws : List Text} (uncut : isCut c = false)
    (h : IsRuns isCut s ws) : ∃ vs, IsRuns isCut (c :: s) vs := by
  by_cases ends : ∀ e ∈ s.head?, isCut e = true
  · refine ⟨[c] :: ws, ?_⟩
    have single : ∀ e ∈ [c], isCut e = false := by simpa using uncut
    exact .run (d := []) (by simp) (by simp) single ends h
  · cases h with
    | gap cuts =>
        refine absurd (fun e he => cuts e ?_) ends
        exact List.mem_of_mem_head? he
    | @run d w t vs cuts nonempty follows stops rest =>
        cases d with
        | nil =>
            refine ⟨(c :: w) :: vs, ?_⟩
            exact .run (d := []) (by simp) (by simp)
              (List.forall_mem_cons.mpr ⟨uncut, follows⟩) stops rest
        | cons e d =>
            refine absurd (fun x hx => ?_) ends
            have same : e = x := by simpa using hx
            exact same ▸ cuts e List.mem_cons_self

theorem exists_isRuns (isCut : Char → Bool) (s : Text) : ∃ ws, IsRuns isCut s ws := by
  induction s with
  | nil => exact ⟨[], .gap (by simp)⟩
  | cons c s ih =>
      obtain ⟨ws, h⟩ := ih
      cases cut : isCut c with
      | true => exact ⟨ws, h.cons_of_cut cut⟩
      | false => exact h.cons_of_uncut cut

theorem runs_eq_iff {s : Text} {ws : List Text} : runs isCut s = ws ↔ IsRuns isCut s ws := by
  refine ⟨fun h => ?_, runs_eq_of_isRuns⟩
  obtain ⟨vs, hvs⟩ := exists_isRuns isCut s
  rwa [← h, runs_eq_of_isRuns hvs]

theorem IsRuns.of_mem {s w : Text} {ws : List Text} (h : IsRuns isCut s ws) (mem : w ∈ ws) :
    w ≠ [] ∧ (∀ c ∈ w, isCut c = false) ∧ ∀ c ∈ w, c ∈ s := by
  induction h with
  | gap => simp at mem
  | run _ nonempty uncut _ _ ih =>
      rcases List.mem_cons.mp mem with rfl | later
      · exact ⟨nonempty, uncut, fun c hc => by simp [hc]⟩
      · obtain ⟨filled, clean, inside⟩ := ih later
        exact ⟨filled, clean, fun c hc => by simp [inside c hc]⟩

theorem isRuns_intercalate {c : Char} (cut : isCut c = true) {ws : List Text}
    (words : ∀ w ∈ ws, w ≠ [] ∧ ∀ e ∈ w, isCut e = false) :
    IsRuns isCut ([c].intercalate ws) ws := by
  induction ws with
  | nil => exact .gap (by simp)
  | cons w ws ih =>
      obtain ⟨nonempty, uncut⟩ := words w List.mem_cons_self
      have rest := ih fun v hv => words v (List.mem_cons_of_mem w hv)
      cases ws with
      | nil =>
          have alone : IsRuns isCut ([] ++ w ++ []) [w] :=
            .run (by simp) nonempty uncut (by simp) (.gap (by simp))
          simpa using alone
      | cons v ws =>
          rw [List.intercalate_cons_cons]
          have joined : IsRuns isCut ([] ++ w ++ c :: [c].intercalate (v :: ws)) (w :: v :: ws) :=
            .run (by simp) nonempty uncut (by simpa using cut) (rest.cons_of_cut cut)
          simpa using joined

theorem splitBy_singleton (c : Char) (s : Text) : splitBy [[c]] s = runs (· == c) s := by
  have same : isDelimiter [[c]] = (· == c) := by
    funext e
    simp [isDelimiter, Bool.beq_eq_decide_eq]
  rw [splitBy, same]

end MethodSignature.Split
