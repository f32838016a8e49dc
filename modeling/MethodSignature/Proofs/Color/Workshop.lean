import Mathlib.Data.Nat.Count
import MethodSignature.Color.Formatter
import MethodSignature.Output.Writer

/-!
Runs of formatters. What a use gives depends on two formatters only, the one that is used and the
newest one at that time. So uses leave no trace, and formatters that no use depends on may be left
out of a run. A writer makes its formatter last, so that its mode alone says whether it paints.
-/

namespace MethodSignature.Color

open Formatter

def Formatter.Step.enabled? (outlet : Outlet) : Step → Option Bool
  | make mode => some (mode.enabledAt outlet)
  | use _ _ _ => none

def Formatter.made (outlet : Outlet) (steps : List Step) : List Bool :=
  steps.filterMap (Step.enabled? outlet)

namespace Workshop

theorem formatters_make (w : Workshop) (mode : Mode) :
    (w.make mode).formatters = w.formatters ++ [.ofMode mode w.outlet] := rfl

theorem switch_make (w : Workshop) (mode : Mode) :
    (w.make mode).switch = mode.enabledAt w.outlet := rfl

def after (w : Workshop) (steps : List Step) : Workshop :=
  steps.foldl (fun w s => (w.step s).1) w

@[simp] theorem after_nil (w : Workshop) : w.after [] = w := rfl

@[simp] theorem after_cons (w : Workshop) (s : Step) (rest : List Step) :
    w.after (s :: rest) = (w.step s).1.after rest := rfl

theorem step_use_fst (w : Workshop) (index : Nat) (style : Style) (s : Text) :
    (w.step (.use index style s)).1 = w := by
  rw [step]
  split <;> rfl

theorem run_append (w : Workshop) (front rest : List Step) :
    w.run (front ++ rest) = w.run front ++ (w.after front).run rest := by
  induction front generalizing w with
  | nil => rfl
  | cons s front ih =>
    rw [List.cons_append, run, ih, run, List.cons_append, after_cons]

theorem length_run (w : Workshop) (steps : List Step) : (w.run steps).length = steps.length := by
  induction steps generalizing w with
  | nil => rfl
  | cons s steps ih => rw [run, List.length_cons, List.length_cons, ih]

theorem run_getElem? (w : Workshop) (steps : List Step) (k : Nat) :
    (w.run steps)[k]? = steps[k]?.map fun s => ((w.after (steps.take k)).step s).2 := by
  induction steps generalizing w k with
  | nil => simp [run]
  | cons s rest ih =>
    cases k with
    | zero => simp [run]
    | succ k => simp [run, ih]

structure Records (outlet : Outlet) (w : Workshop) (states : List Bool) : Prop where
  outlet : w.outlet = outlet
  formatters : w.formatters = states.map Formatter.mk
  switch : ∀ newest ∈ states.getLast?, w.switch = newest

variable {outlet : Outlet} {w : Workshop} {states : List Bool}

theorem Records.step (records : Records outlet w states) (s : Step) :
    Records outlet (w.step s).1 (states ++ (s.enabled? outlet).toList) := by
  cases s with
  | make mode =>
    refine ⟨records.outlet, ?_, ?_⟩
    · rw [List.map_append, ← records.formatters, ← records.outlet]
      rfl
    · intro newest last
      have same : mode.enabledAt outlet = newest := by simpa [Step.enabled?] using last
      rw [← same, ← records.outlet]
      rfl
  | use index style s =>
    rw [step_use_fst]
    simpa [Step.enabled?] using records

theorem Records.after (records : Records outlet w states) (steps : List Step) :
    Records outlet (w.after steps) (states ++ made outlet steps) := by
  induction steps generalizing w states with
  | nil => simpa [made] using records
  | cons s steps ih =>
    have later := ih (records.step s)
    rw [List.append_assoc] at later
    cases s <;> exact later

theorem Records.use (records : Records outlet w states) {index : Nat} {own : Bool}
    (used : states[index]? = some own) :
    ∃ newest, states.getLast? = some newest ∧ ∀ style s,
      (w.step (.use index style s)).2 = .styled (style.apply (own && newest) s) := by
  have nonempty : states ≠ [] := by
    rintro rfl
    nomatch used
  have last := List.getLast?_eq_some_getLast nonempty
  refine ⟨states.getLast nonempty, last, fun style s => ?_⟩
  have formatter : w.formatters[index]? = some ⟨own⟩ := by
    rw [records.formatters, List.getElem?_map, used]
    rfl
  simp only [Workshop.step, formatter, Workshop.style, records.switch _ last]

theorem run_uses_of_newest (w : Workshop) {n : Nat} {on : Bool}
    (formatter : w.formatters[n]? = some ⟨on⟩) (switch : w.switch = on)
    (uses : List (Style × Text)) :
    w.run (uses.map fun (style, s) => .use n style s) =
      uses.map fun (style, s) => .styled (style.apply on s) := by
  induction uses with
  | nil => rfl
  | cons use rest ih =>
    rw [List.map_cons, run, step_use_fst, ih]
    simp [step, formatter, Workshop.style, switch]

/-- Where no terminal is, a formatter that is made last paints as the writer of its mode does,
whatever was made and used before. -/
theorem run_make_uses {outlet : Outlet} (elsewhere : outlet.interactive = false) (format : Format)
    (mode : Mode) (front : List Step) (uses : List (Style × Text)) :
    ({ outlet } : Workshop).run (front ++ .make mode ::
        uses.map fun (style, s) => .use (made outlet front).length style s) =
      ({ outlet } : Workshop).run front ++ .made (made outlet front).length ::
        uses.map fun (style, s) =>
          .styled (style.apply (Writer.ofMode format mode).colored s) := by
  have start : Records outlet { outlet } [] := ⟨rfl, rfl, nofun⟩
  have records := start.after front
  rw [List.nil_append] at records
  rw [run_append]
  generalize ({ outlet } : Workshop).after front = w at records
  have length : w.formatters.length = (made outlet front).length := by
    rw [records.formatters, List.length_map]
  have enabled : mode.enabledAt w.outlet = (Writer.ofMode format mode).colored := by
    rw [records.outlet, mode.enabledAt_of_not_interactive elsewhere]
    rfl
  have newest : (w.make mode).formatters[(made outlet front).length]? =
      some ⟨(Writer.ofMode format mode).colored⟩ := by
    rw [formatters_make, ← length, List.getElem?_concat_length, ← enabled]
    rfl
  have switch : (w.make mode).switch = (Writer.ofMode format mode).colored :=
    (w.switch_make mode).trans enabled
  have painted := (w.make mode).run_uses_of_newest newest switch uses
  rw [run, ← painted, ← length]
  rfl

end Workshop

namespace Formatter

def Result.isMade : Result → Bool
  | made _ => true
  | styled _ => false
  | unknown => false

/-- Formatter `n` is used in the steps, or is the newest when another one is; so many formatters
have been made before the steps. -/
inductive IsNeeded (n : Nat) : Nat → List Step → Prop
  | used {count : Nat} {style : Style} {s : Text} {rest : List Step} (there : n < count) :
      IsNeeded n count (.use n style s :: rest)
  | newest {count index : Nat} {style : Style} {s : Text} {rest : List Step}
      (last : n + 1 = count) : IsNeeded n count (.use index style s :: rest)
  | pastMake {count : Nat} {mode : Mode} {rest : List Step} (later : IsNeeded n (count + 1) rest) :
      IsNeeded n count (.make mode :: rest)
  | pastUse {count index : Nat} {style : Style} {s : Text} {rest : List Step}
      (later : IsNeeded n count rest) : IsNeeded n count (.use index style s :: rest)

instance decidableIsNeeded (n : Nat) : ∀ count steps, Decidable (IsNeeded n count steps)
  | _, [] => isFalse nofun
  | count, .make _ :: rest =>
      have := decidableIsNeeded n (count + 1) rest
      decidable_of_iff (IsNeeded n (count + 1) rest)
        ⟨.pastMake, fun | .pastMake later => later⟩
  | count, .use index _ _ :: rest =>
      have := decidableIsNeeded n count rest
      decidable_of_iff ((n = index ∧ n < count) ∨ n + 1 = count ∨ IsNeeded n count rest)
        ⟨fun
          | .inl ⟨same, there⟩ => same ▸ .used there
          | .inr (.inl last) => .newest last
          | .inr (.inr later) => .pastUse later,
        fun
          | .used there => .inl ⟨rfl, there⟩
          | .newest last => .inr (.inl last)
          | .pastUse later => .inr (.inr later)⟩

def place (keep : Nat → Bool) (index : Nat) : Nat := Nat.count (keep · = true) index

theorem place_succ_of_kept {keep : Nat → Bool} {n : Nat} (kept : keep n = true) :
    place keep (n + 1) = place keep n + 1 := by
  rw [place, Nat.count_succ, if_pos kept]
  rfl

theorem place_succ_of_dropped {keep : Nat → Bool} {n : Nat} (dropped : keep n = false) :
    place keep (n + 1) = place keep n := by
  rw [place, Nat.count_succ, if_neg (by simp [dropped])]
  rfl

/-- The steps without the formatters that `keep` does not name, where `count` formatters have been
made before. -/
def thin (keep : Nat → Bool) : Nat → List Step → List Step
  | _, [] => []
  | count, .make mode :: rest =>
      if keep count then .make mode :: thin keep (count + 1) rest else thin keep (count + 1) rest
  | count, .use index style s :: rest =>
      .use (place keep index) style s :: thin keep count rest

end Formatter

namespace Workshop

def outputs (w : Workshop) (steps : List Step) : List Result :=
  (w.run steps).filter (!·.isMade)

theorem outputs_make (w : Workshop) (mode : Mode) (rest : List Step) :
    w.outputs (.make mode :: rest) = (w.make mode).outputs rest := rfl

theorem outputs_use (w : Workshop) (index : Nat) (style : Style) (s : Text) (rest : List Step) :
    w.outputs (.use index style s :: rest) =
      (w.step (.use index style s)).2 :: w.outputs rest := by
  have used : (!(w.step (.use index style s)).2.isMade) = true := by
    rw [step]
    split <;> rfl
  rw [outputs, run, step_use_fst]
  exact List.filter_cons_of_pos used

/-- One workshop holds the formatters of the other that `keep` names, and the switch is the same
where the newest is among them. -/
structure Thinned (keep : Nat → Bool) (full thinned : Workshop) : Prop where
  outlet : thinned.outlet = full.outlet
  count : thinned.formatters.length = place keep full.formatters.length
  kept : ∀ n, n < full.formatters.length → keep n = true →
    thinned.formatters[place keep n]? = full.formatters[n]?
  switch : ∀ n, n + 1 = full.formatters.length → keep n = true → thinned.switch = full.switch

variable {keep : Nat → Bool} {full thinned : Workshop}

theorem Thinned.make_of_kept (related : Thinned keep full thinned)
    (kept : keep full.formatters.length = true) (mode : Mode) :
    Thinned keep (full.make mode) (thinned.make mode) := by
  refine ⟨related.outlet, ?_, fun n bound named => ?_, fun _ _ _ => ?_⟩
  · rw [formatters_make, formatters_make, List.length_append, List.length_append,
      List.length_singleton, List.length_singleton, place_succ_of_kept kept, related.count]
  · rw [formatters_make, List.length_append, List.length_singleton] at bound
    rw [formatters_make, formatters_make, related.outlet]
    -- The new formatter comes last in both workshops, the others stay where they were.
    cases Nat.lt_succ_iff_lt_or_eq.mp bound with
    | inl earlier =>
      have held := related.kept n earlier named
      rw [List.getElem?_eq_getElem earlier] at held
      obtain ⟨below, -⟩ := List.getElem?_eq_some_iff.mp held
      rw [List.getElem?_append_left below, List.getElem?_append_left earlier,
        related.kept n earlier named]
    | inr last =>
      rw [last, ← related.count, List.getElem?_concat_length, List.getElem?_concat_length]
  · rw [switch_make, switch_make, related.outlet]

theorem Thinned.make_of_dropped (related : Thinned keep full thinned)
    (dropped : keep full.formatters.length = false) (mode : Mode) :
    Thinned keep (full.make mode) thinned := by
  have other {n : Nat} (named : keep n = true) : n ≠ full.formatters.length := by
    rintro rfl
    rw [dropped] at named
    nomatch named
  refine ⟨related.outlet, ?_, fun n bound named => ?_, fun n last named => ?_⟩
  · rw [formatters_make, List.length_append, List.length_singleton,
      place_succ_of_dropped dropped, related.count]
  · rw [formatters_make, List.length_append, List.length_singleton] at bound
    have earlier : n < full.formatters.length :=
      Nat.lt_of_le_of_ne (Nat.lt_succ_iff.mp bound) (other named)
    rw [formatters_make, List.getElem?_append_left earlier, related.kept n earlier named]
  · rw [formatters_make, List.length_append, List.length_singleton] at last
    exact absurd (Nat.succ.inj last) (other named)

theorem Thinned.use (related : Thinned keep full thinned) {index : Nat} {style : Style} {s : Text}
    {rest : List Step}
    (needed : ∀ n, IsNeeded n full.formatters.length (.use index style s :: rest) → keep n = true) :
    (thinned.step (.use (place keep index) style s)).2 =
      (full.step (.use index style s)).2 := by
  cases Nat.lt_or_ge index full.formatters.length with
  | inl there =>
    -- This use makes two formatters needed: the one used and the newest, which sets the switch.
    obtain ⟨last, count⟩ := Nat.exists_eq_succ_of_ne_zero (Nat.ne_zero_of_lt there)
    have held := related.kept index there (needed index (.used there))
    have switch := related.switch last count.symm (needed last (.newest count.symm))
    rw [List.getElem?_eq_getElem there] at held
    simp only [step, held, List.getElem?_eq_getElem there, Workshop.style, switch]
  | inr beyond =>
    have later : thinned.formatters.length ≤ place keep index := by
      rw [related.count]
      exact Nat.count_monotone _ beyond
    simp only [step, List.getElem?_eq_none beyond, List.getElem?_eq_none later]

theorem Thinned.outputs (related : Thinned keep full thinned) {steps : List Step}
    (needed : ∀ n, IsNeeded n full.formatters.length steps → keep n = true) :
    thinned.outputs (thin keep full.formatters.length steps) = full.outputs steps := by
  induction steps generalizing full thinned with
  | nil => rfl
  | cons step rest ih =>
    cases step with
    | make mode =>
      have length : (full.make mode).formatters.length = full.formatters.length + 1 := by
        rw [formatters_make, List.length_append, List.length_singleton]
      have later : ∀ n, IsNeeded n (full.make mode).formatters.length rest → keep n = true := by
        rw [length]
        exact fun n need => needed n (.pastMake need)
      rw [thin, outputs_make, ← length]
      split
      · rename_i kept
        exact ih (related.make_of_kept kept mode) later
      · rename_i dropped
        exact ih (related.make_of_dropped (by simpa using dropped) mode) later
    | use index style s =>
      rw [thin, outputs_use, outputs_use, related.use needed,
        ih related fun n need => needed n (.pastUse need)]

theorem thinned_nil (keep : Nat → Bool) (outlet : Outlet) : Thinned keep { outlet } { outlet } :=
  ⟨rfl, rfl, nofun, nofun⟩

/-- A use paints exactly when the formatter and the newest one at that time were made enabled, and
gives the text as it is otherwise; leaving a use out changes nothing else; and leaving out
formatters that no use depends on changes nothing that the uses give. -/
theorem run_uses (outlet : Outlet) (steps : List Step) :
    (∀ k index style s own, steps[k]? = some (.use index style s) →
      (made outlet (steps.take k))[index]? = some own →
        ∃ newest text, (made outlet (steps.take k)).getLast? = some newest ∧
          (({ outlet } : Workshop).run steps)[k]? = some (.styled text) ∧
          (text = style.paint s ↔ own = true ∧ newest = true) ∧
          (text = s ↔ ¬ (own = true ∧ newest = true))) ∧
    (∀ front index style s rest, steps = front ++ .use index style s :: rest →
      (({ outlet } : Workshop).run steps).eraseIdx front.length =
        ({ outlet } : Workshop).run (front ++ rest)) ∧
    ∀ keep : Nat → Bool, (∀ n, IsNeeded n 0 steps → keep n = true) →
      ({ outlet } : Workshop).outputs (thin keep 0 steps) =
        ({ outlet } : Workshop).outputs steps := by
  refine ⟨fun k index style s own here used => ?_, ?_, fun keep needed => ?_⟩
  · have start : Records outlet { outlet } [] := ⟨rfl, rfl, nofun⟩
    obtain ⟨newest, last, given⟩ := (start.after (steps.take k)).use used
    refine ⟨newest, style.apply (own && newest) s, last, ?_, ?_⟩
    · rw [run_getElem?, here, Option.map_some, given]
    · rw [Style.apply, ← Bool.and_eq_true]
      cases own && newest with
      | true => simp [style.paint_ne s]
      | false => simp [(style.paint_ne s).symm]
  · rintro front index style s rest rfl
    rw [run_append, run_append, run, step_use_fst, ← length_run { outlet } front,
      List.eraseIdx_append_of_length_le (Nat.le_refl _), Nat.sub_self, List.eraseIdx_cons_zero]
  · exact (thinned_nil keep outlet).outputs needed

/-- An enabled formatter is used while the newest is enabled, and again when that is no longer so.
The second formatter is neither used nor the newest at a use. -/
def crossing : List Step :=
  [.make .always, .make .never, .make .always, .use 0 .header "a".toList, .make .never,
    .use 2 .dim "b".toList]

theorem run_uses_crossing :
    thin (IsNeeded · 0 crossing) 0 crossing =
        [.make .always, .make .always, .use 0 .header "a".toList, .make .never,
          .use 1 .dim "b".toList] ∧
      ({} : Workshop).outputs (thin (IsNeeded · 0 crossing) 0 crossing) =
        [.styled (Style.header.paint "a".toList), .styled "b".toList] := by
  refine ⟨rfl, ?_⟩
  rw [(run_uses {} crossing).2.2 _ fun n need => decide_eq_true need]
  rfl

end Workshop

end MethodSignature.Color
