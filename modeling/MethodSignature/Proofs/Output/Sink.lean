import MethodSignature.Output.Writer

/-!
Runs of a writer on a sink. Writing chunk by chunk is writing the whole at once, so a sink with
room for `limit` octets holds after every step the first `limit` octets of what a sink without a
limit holds, and a write fails exactly when the whole does not fit. Flushing changes none of this.
-/

namespace MethodSignature

theorem Document.render_ne_nil (format : Format) (colored : Bool) (d : Document) :
    d.render format colored ≠ [] := by
  cases format with
  | json => simp [render, chunks]
  | terminal =>
    cases d with
    | reports rs => simp [render, chunks, Terminal.lines]
    | split result => simp [render, chunks, Terminal.lines]

namespace Sink

def store (sink : Sink) (b : Bytes) : Sink := { sink with stored := sink.stored ++ b }

@[simp] theorem store_stored (sink : Sink) (b : Bytes) :
    (sink.store b).stored = sink.stored ++ b := rfl

@[simp] theorem store_limit (sink : Sink) (b : Bytes) : (sink.store b).limit = sink.limit := rfl

theorem store_store (sink : Sink) (a b : Bytes) :
    (sink.store a).store b = sink.store (a ++ b) := by
  simp [store]

theorem fitting_of_unlimited {sink : Sink} (unlimited : sink.limit = none) (b : Bytes) :
    sink.fitting b = b := by
  simp [fitting, unlimited]

theorem fitting_of_limit {sink : Sink} {limit : Nat} (limited : sink.limit = some limit)
    (b : Bytes) : sink.fitting b = b.take (limit - sink.stored.length) := by
  simp [fitting, limited]

theorem fitting_isPrefix (sink : Sink) (b : Bytes) : sink.fitting b <+: b := by
  unfold fitting
  split
  · exact List.prefix_rfl
  · exact List.take_prefix _ b

theorem write_of_fits {sink : Sink} {b : Bytes} (fits : sink.fitting b = b) :
    sink.write b = (.ok (), sink.store b) := by
  simp only [write, fits, if_true]
  rfl

theorem write_of_overflows {sink : Sink} {b : Bytes} (cut : sink.fitting b ≠ b) :
    sink.write b = (.error (.other "sink full"), sink.store (sink.fitting b)) := by
  have shorter : (sink.fitting b).length ≠ b.length :=
    fun same => cut ((sink.fitting_isPrefix b).eq_of_length same)
  simp only [write, shorter, if_false]
  rfl

theorem write_stored (sink : Sink) (b : Bytes) :
    (sink.write b).2 = sink.store (sink.fitting b) := by
  by_cases fits : sink.fitting b = b
  · rw [write_of_fits fits, fits]
  · rw [write_of_overflows fits]

theorem fitting_append_of_fits {sink : Sink} {a : Bytes} (fits : sink.fitting a = a)
    (b : Bytes) : sink.fitting (a ++ b) = a ++ (sink.store a).fitting b := by
  cases h : sink.limit with
  | none => rw [fitting_of_unlimited h, fitting_of_unlimited (by simpa using h)]
  | some limit =>
    rw [fitting_of_limit h] at fits
    have limited : (sink.store a).limit = some limit := h
    rw [fitting_of_limit h, fitting_of_limit limited, List.take_append, fits, store_stored,
      List.length_append, Nat.sub_sub]

theorem fitting_append_of_overflows {sink : Sink} {a : Bytes} (cut : sink.fitting a ≠ a)
    (b : Bytes) : sink.fitting (a ++ b) = sink.fitting a := by
  cases h : sink.limit with
  | none => exact absurd (fitting_of_unlimited h a) cut
  | some limit =>
    rw [fitting_of_limit h] at cut
    have short : ¬ a.length ≤ limit - sink.stored.length :=
      fun enough => cut (List.take_of_length_le enough)
    have full : limit - sink.stored.length - a.length = 0 := by omega
    rw [fitting_of_limit h, fitting_of_limit h, List.take_append, full, List.take_zero,
      List.append_nil]

theorem write_append_of_fits {sink : Sink} {a : Bytes} (fits : sink.fitting a = a) (b : Bytes) :
    sink.write (a ++ b) = (sink.store a).write b := by
  have kept := fitting_append_of_fits fits b
  by_cases more : (sink.store a).fitting b = b
  · rw [write_of_fits more, write_of_fits (by rw [kept, more]), store_store]
  · have cut : sink.fitting (a ++ b) ≠ a ++ b := by
      rw [kept]
      exact fun same => more (List.append_cancel_left same)
    rw [write_of_overflows more, write_of_overflows cut, kept, store_store]

theorem write_append_of_overflows {sink : Sink} {a : Bytes} (cut : sink.fitting a ≠ a)
    (b : Bytes) : sink.write (a ++ b) = sink.write a := by
  have kept := fitting_append_of_overflows cut b
  have still : sink.fitting (a ++ b) ≠ a ++ b := by
    rw [kept]
    intro same
    have shorter : (sink.fitting a).length ≤ a.length := (sink.fitting_isPrefix a).length_le
    have longer : (sink.fitting a).length = a.length + b.length := by simp [same]
    exact cut ((sink.fitting_isPrefix a).eq_of_length (by omega))
  rw [write_of_overflows cut, write_of_overflows still, kept]

/-- A failure in the middle leaves what one write of the whole would leave. -/
theorem writeAll_eq_write (sink : Sink) (chunks : List Bytes) :
    sink.writeAll chunks = sink.write chunks.flatten := by
  induction chunks generalizing sink with
  | nil =>
    have fits : sink.fitting [] = [] := List.prefix_nil.mp (sink.fitting_isPrefix [])
    rw [writeAll, List.flatten_nil, write_of_fits fits]
    simp [store]
  | cons chunk rest ih =>
    rw [writeAll, List.flatten_cons]
    by_cases fits : sink.fitting chunk = chunk
    · rw [write_append_of_fits fits, write_of_fits fits]
      exact ih _
    · rw [write_append_of_overflows fits, write_of_overflows fits]

theorem write_congr {sink other : Sink} (stored : sink.stored = other.stored)
    (limit : sink.limit = other.limit) (b : Bytes) :
    (sink.write b).1 = (other.write b).1 ∧ (sink.write b).2.stored = (other.write b).2.stored ∧
      (sink.write b).2.limit = (other.write b).2.limit := by
  have kept : sink.fitting b = other.fitting b := by
    unfold fitting
    rw [stored, limit]
  refine ⟨?_, ?_, ?_⟩
  · by_cases fits : sink.fitting b = b
    · rw [write_of_fits fits, write_of_fits (kept ▸ fits)]
    · rw [write_of_overflows fits, write_of_overflows (kept ▸ fits)]
  · rw [write_stored, write_stored, store_stored, store_stored, stored, kept]
  · rw [write_stored, write_stored, store_limit, store_limit, limit]

theorem flush_stored (sink : Sink) : sink.flush.2.stored = sink.stored := by
  unfold flush
  split <;> rfl

theorem flush_limit (sink : Sink) : sink.flush.2.limit = sink.limit := by
  unfold flush
  split <;> rfl

/-- What one sink holds is as much as fits of what the other holds, which has no limit. -/
structure Follows (limit : Nat) (sink full : Sink) : Prop where
  limited : sink.limit = some limit
  unlimited : full.limit = none
  stored : sink.stored = full.stored.take limit

namespace Follows

variable {limit : Nat} {sink full : Sink}

theorem length_stored (follows : Follows limit sink full) :
    sink.stored.length = min limit full.stored.length := by
  rw [follows.stored, List.length_take]

theorem write (follows : Follows limit sink full) (b : Bytes) :
    Follows limit (sink.write b).2 (full.write b).2 := by
  have room : limit - sink.stored.length = limit - full.stored.length := by
    rw [follows.length_stored]
    omega
  rw [write_stored, write_stored, fitting_of_unlimited follows.unlimited,
    fitting_of_limit follows.limited, room]
  refine ⟨follows.limited, follows.unlimited, ?_⟩
  rw [store_stored, store_stored, follows.stored, List.take_append]

/-- A write that puts out anything at all succeeds exactly when everything so far fits. -/
theorem write_result (follows : Follows limit sink full) {b : Bytes} (nonempty : b ≠ []) :
    (sink.write b).1 =
      if (full.write b).2.stored.length ≤ limit then .ok () else .error (.other "sink full") := by
  have positive : 0 < b.length := List.length_pos_iff.mpr nonempty
  have whole : (full.write b).2.stored.length = full.stored.length + b.length := by
    rw [write_stored, fitting_of_unlimited follows.unlimited, store_stored, List.length_append]
  have length := follows.length_stored
  have kept := fitting_of_limit follows.limited b
  rw [whole]
  by_cases fits : full.stored.length + b.length ≤ limit
  · rw [if_pos fits, write_of_fits]
    rw [kept, List.take_of_length_le (by omega)]
  · rw [if_neg fits, write_of_overflows]
    intro same
    have room : b.length ≤ limit - sink.stored.length := by
      rw [← same, kept]
      exact List.length_take_le _ b
    omega

theorem flush (follows : Follows limit sink full) : Follows limit sink.flush.2 full.flush.2 := by
  refine ⟨?_, ?_, ?_⟩
  · rw [flush_limit, follows.limited]
  · rw [flush_limit, follows.unlimited]
  · rw [flush_stored, flush_stored, follows.stored]

end Follows

end Sink

namespace Writer

def octets (w : Writer) : Step → Bytes
  | .write d => Text.encode (d.render w.format w.colored)
  | .flush => []

theorem step_write (w : Writer) (sink : Sink) (d : Document) :
    w.step sink (.write d) = sink.write (w.octets (.write d)) := by
  rw [step, Sink.writeAll_eq_write, ← Text.encode_flatten]
  rfl

theorem octets_write_ne_nil (w : Writer) (d : Document) : w.octets (.write d) ≠ [] :=
  Text.encode_ne_nil (d.render_ne_nil w.format w.colored)

theorem step_of_unlimited (w : Writer) {sink : Sink} (unlimited : sink.limit = none) (s : Step) :
    (w.step sink s).2.stored = sink.stored ++ w.octets s ∧ (w.step sink s).2.limit = none := by
  cases s with
  | write d =>
    rw [step_write, Sink.write_of_fits (Sink.fitting_of_unlimited unlimited _)]
    exact ⟨rfl, unlimited⟩
  | flush =>
    rw [octets, List.append_nil]
    exact ⟨sink.flush_stored, sink.flush_limit.trans unlimited⟩

theorem step_follows (w : Writer) {limit : Nat} {sink full : Sink}
    (follows : sink.Follows limit full) (s : Step) :
    (w.step sink s).2.Follows limit (w.step full s).2 := by
  cases s with
  | write d =>
    rw [step_write, step_write]
    exact follows.write _
  | flush => exact follows.flush

def sinkAfter (w : Writer) (sink : Sink) (steps : List Step) : Sink :=
  ((w.run sink steps).getLast?.map Prod.snd).getD sink

@[simp] theorem sinkAfter_nil (w : Writer) (sink : Sink) : w.sinkAfter sink [] = sink := rfl

@[simp] theorem sinkAfter_cons (w : Writer) (sink : Sink) (s : Step) (rest : List Step) :
    w.sinkAfter sink (s :: rest) = w.sinkAfter (w.step sink s).2 rest := by
  rw [sinkAfter, sinkAfter, run, List.getLast?_cons]
  cases (w.run (w.step sink s).2 rest).getLast? <;> rfl

theorem run_getElem? (w : Writer) (sink : Sink) (steps : List Step) (k : Nat) :
    (w.run sink steps)[k]? = steps[k]?.map (w.step (w.sinkAfter sink (steps.take k))) := by
  induction steps generalizing sink k with
  | nil => simp [run]
  | cons s rest ih =>
    cases k with
    | zero => simp [run]
    | succ k => simp [run, ih]

theorem sinkAfter_of_unlimited (w : Writer) {sink : Sink} (unlimited : sink.limit = none)
    (steps : List Step) :
    (w.sinkAfter sink steps).stored = sink.stored ++ steps.flatMap w.octets ∧
      (w.sinkAfter sink steps).limit = none := by
  induction steps generalizing sink with
  | nil => simpa using unlimited
  | cons s rest ih =>
    obtain ⟨stored, still⟩ := w.step_of_unlimited unlimited s
    obtain ⟨all, unlimited⟩ := ih still
    rw [sinkAfter_cons, all, stored, List.flatMap_cons, List.append_assoc]
    exact ⟨rfl, unlimited⟩

theorem sinkAfter_follows (w : Writer) {limit : Nat} {sink full : Sink}
    (follows : sink.Follows limit full) (steps : List Step) :
    (w.sinkAfter sink steps).Follows limit (w.sinkAfter full steps) := by
  induction steps generalizing sink full with
  | nil => exact follows
  | cons s rest ih =>
    rw [sinkAfter_cons, sinkAfter_cons]
    exact ih (w.step_follows follows s)

def Step.isWrite : Step → Bool
  | .write _ => true
  | .flush => false

def writeOutcomes (w : Writer) (sink : Sink) (steps : List Step) :
    List (Except StorageError Unit × Bytes) :=
  (steps.zip (w.run sink steps)).filterMap fun
    | (.write _, result, after) => some (result, after.stored)
    | (.flush, _) => none

theorem writeOutcomes_write (w : Writer) (sink : Sink) (d : Document) (rest : List Step) :
    w.writeOutcomes sink (.write d :: rest) =
      ((w.step sink (.write d)).1, (w.step sink (.write d)).2.stored) ::
        w.writeOutcomes (w.step sink (.write d)).2 rest := rfl

theorem writeOutcomes_flush (w : Writer) (sink : Sink) (rest : List Step) :
    w.writeOutcomes sink (.flush :: rest) = w.writeOutcomes sink.flush.2 rest := rfl

/-- Which flushes stand between the writes, and whether they fail, makes no difference to them. -/
theorem writeOutcomes_filter_isWrite (w : Writer) {sink other : Sink}
    (stored : sink.stored = other.stored) (limit : sink.limit = other.limit)
    (steps : List Step) :
    w.writeOutcomes sink steps = w.writeOutcomes other (steps.filter Step.isWrite) := by
  induction steps generalizing sink other with
  | nil => rfl
  | cons s rest ih =>
    cases s with
    | write d =>
      have same := Sink.write_congr stored limit (w.octets (.write d))
      rw [List.filter_cons_of_pos rfl, writeOutcomes_write, writeOutcomes_write, step_write,
        step_write, same.1, same.2.1, ih same.2.1 same.2.2]
    | flush =>
      rw [List.filter_cons_of_neg (by simp [Step.isWrite]), writeOutcomes_flush]
      refine ih ?_ ?_
      · rw [Sink.flush_stored, stored]
      · rw [Sink.flush_limit, limit]

theorem step_result_of_follows (w : Writer) {limit : Nat} {sink full : Sink}
    (follows : sink.Follows limit full) (d : Document) :
    (w.step sink (.write d)).1 =
      if (w.step full (.write d)).2.stored.length ≤ limit then .ok ()
      else .error (.other "sink full") := by
  rw [step_write, step_write]
  exact follows.write_result (w.octets_write_ne_nil d)

/-- After every step a sink with room for `limit` octets holds the first `limit` octets of what
a sink without a limit has received, which is the output of the steps so far; a write returns
an error exactly when that is more than fits; and flushes leave what is stored and what the
writes do as they are. -/
theorem run_of_limit (w : Writer) (limit : Nat) (flushFails : Nat → Bool) (steps : List Step) :
    (∀ k s, steps[k]? = some s → ∃ held full,
      (w.run { limit := some limit, flushFails } steps)[k]? = some held ∧
      (w.run { flushFails } steps)[k]? = some full ∧
      full.2.stored = (steps.take (k + 1)).flatMap w.octets ∧
      held.2.stored = full.2.stored.take limit ∧
      (s.isWrite → held.1 =
        if full.2.stored.length ≤ limit then .ok () else .error (.other "sink full"))) ∧
    (∀ sink, (w.step sink .flush).2.stored = sink.stored) ∧
    ∀ otherFails, w.writeOutcomes { limit := some limit, flushFails } steps =
      w.writeOutcomes { limit := some limit, flushFails := otherFails }
        (steps.filter Step.isWrite) := by
  refine ⟨?_, fun sink => sink.flush_stored, fun otherFails => ?_⟩
  · intro k s here
    have start : Sink.Follows limit { limit := some limit, flushFails } { flushFails } :=
      ⟨rfl, rfl, List.take_nil.symm⟩
    have before := w.sinkAfter_follows start (steps.take k)
    have after := w.step_follows before s
    obtain ⟨received, unlimited⟩ :=
      w.sinkAfter_of_unlimited start.unlimited (steps.take k)
    refine ⟨_, _, ?_, ?_, ?_, after.stored, ?_⟩
    · rw [run_getElem?, here]
      rfl
    · rw [run_getElem?, here]
      rfl
    · rw [(w.step_of_unlimited unlimited s).1, received, List.take_add_one, here]
      simp
    · cases s with
      | write d => exact fun _ => w.step_result_of_follows before d
      | flush => exact fun write => nomatch write
  · have stored : ({ limit := some limit, flushFails } : Sink).stored =
        ({ limit := some limit, flushFails := otherFails } : Sink).stored := rfl
    exact w.writeOutcomes_filter_isWrite stored rfl steps

end Writer

end MethodSignature
