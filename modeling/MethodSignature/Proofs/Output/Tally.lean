import MethodSignature.Proofs.Output.JsonStream
import MethodSignature.Proofs.Output.Presentation

/-!
What an output says about success. Of lines the last one counts the inputs that were read and
those at fault, and of a list in JSON the items with the key `error` are the inputs at fault. An
output can be taken for such lines or such a list in one way only, whatever the inputs hold.
-/

namespace MethodSignature

namespace Text

theorem ofNat_inj {m n : Nat} : ofNat m = ofNat n ↔ m = n := by
  constructor
  · intro same
    have read := congrArg (fun digits => Nat.ofDigitChars 10 digits 0) same
    simpa only [ofNat, Nat.ofDigitChars_ten_toDigits] using read
  · exact congrArg ofNat

theorem append_cons_inj_of_notMem {x : Char} {a b s t : Text} (clean : x ∉ a) (clean' : x ∉ b)
    (same : a ++ x :: s = b ++ x :: t) : a = b ∧ s = t := by
  induction a generalizing b with
  | nil =>
    cases b with
    | nil => exact ⟨rfl, (List.cons.inj same).2⟩
    | cons d b => exact absurd ((List.cons.inj same).1 ▸ List.mem_cons_self) clean'
  | cons c a ih =>
    cases b with
    | nil => exact absurd ((List.cons.inj same).1 ▸ List.mem_cons_self) clean
    | cons d b =>
      have heads := List.cons.inj same
      have tails := ih (List.not_mem_of_not_mem_cons clean) (List.not_mem_of_not_mem_cons clean')
        heads.2
      exact ⟨by rw [heads.1, tails.1], tails.2⟩

/-- The front of a text whose last line starts behind it. -/
def Ended (front : Text) : Prop := ∀ c ∈ front.getLast?, c = '\n'

/-- Read from its end, a text is its last line up to the first line feed. -/
theorem Ended.takeWhile_reverse {front line : Text} (ended : Ended front) (clean : '\n' ∉ line) :
    (front ++ line).reverse.takeWhile (· ≠ '\n') = line.reverse := by
  have kept : ∀ c ∈ line.reverse, decide (c ≠ '\n') = true := fun c mem => by
    simpa using fun (feed : c = '\n') => clean (feed ▸ List.mem_reverse.mp mem)
  rw [List.reverse_append, List.takeWhile_append_of_pos kept]
  cases last : front.reverse with
  | nil => exact List.append_nil _
  | cons c rest =>
    have feed : c = '\n' := ended c (by rw [← List.head?_reverse, last]; rfl)
    rw [feed]
    exact List.append_nil _

theorem ended_append_inj {front front' line line' : Text} (ended : Ended front)
    (ended' : Ended front') (clean : '\n' ∉ line) (clean' : '\n' ∉ line')
    (same : front ++ line = front' ++ line') : line = line' := by
  apply List.reverse_inj.mp
  rw [← ended.takeWhile_reverse clean, ← ended'.takeWhile_reverse clean', same]

end Text

namespace Color.Style

theorem apply_of_notMem {s : Text} (clean : '\x1b' ∉ s) (style : Style) :
    style.apply true s = style.opening ++ s ++ reset := by
  have kept := reopen_append_of_notMem clean style.opening []
  rw [List.append_nil, reopen, List.append_nil] at kept
  rw [apply, if_pos rfl, paint, kept]

end Color.Style

namespace Terminal

open Color

def counts (parsed failed : Nat) : Text :=
  Text.ofNat parsed ++ " parsed, " ++ Text.ofNat failed ++ " failed"

theorem counts_inj {parsed failed parsed' failed' : Nat} :
    counts parsed failed = counts parsed' failed' ↔ parsed = parsed' ∧ failed = failed' := by
  constructor
  · intro same
    have blank (n : Nat) : ' ' ∉ Text.ofNat n := Text.notMem_ofNat rfl n
    simp only [counts, List.append_assoc] at same
    obtain ⟨first, rest⟩ := Text.append_cons_inj_of_notMem (blank parsed) (blank parsed') same
    have rest := @List.append_cancel_left _ "parsed, ".toList _ _ rest
    obtain ⟨second, -⟩ := Text.append_cons_inj_of_notMem (blank failed) (blank failed') rest
    exact ⟨Text.ofNat_inj.mp first, Text.ofNat_inj.mp second⟩
  · rintro ⟨rfl, rfl⟩
    rfl

theorem notMem_counts {c : Char} (hidden : c ∈ unprinted) (parsed failed : Nat) :
    c ∉ counts parsed failed :=
  notMem_tally hidden parsed failed

def Counts (colored : Bool) (s : Text) (parsed failed : Nat) : Prop :=
  ∃ front, Text.Ended front ∧
    s = front ++ Style.header.apply colored (counts parsed failed) ++ "\n"

theorem header_counts_inj {colored : Bool} {parsed failed parsed' failed' : Nat}
    (same : Style.header.apply colored (counts parsed failed) =
      Style.header.apply colored (counts parsed' failed')) :
    parsed = parsed' ∧ failed = failed' := by
  have clean := notMem_counts (c := '\x1b') (by decide)
  apply counts_inj.mp
  cases colored with
  | false => exact same
  | true =>
    rw [Style.apply_of_notMem (clean _ _), Style.apply_of_notMem (clean _ _)] at same
    exact List.append_cancel_left (List.append_cancel_right same)

theorem newline_notMem_header_counts (colored : Bool) (parsed failed : Nat) :
    '\n' ∉ Style.header.apply colored (counts parsed failed) := by
  have plain := notMem_counts (c := '\n') (by decide) parsed failed
  cases colored with
  | false => exact plain
  | true =>
    have clean := notMem_counts (c := '\x1b') (by decide) parsed failed
    rw [Style.apply_of_notMem clean]
    exact List.not_mem_append (List.not_mem_append (by decide) plain) (by decide)

theorem Counts.unique {colored : Bool} {s : Text} {parsed failed parsed' failed' : Nat}
    (one : Counts colored s parsed failed) (other : Counts colored s parsed' failed') :
    parsed = parsed' ∧ failed = failed' := by
  obtain ⟨front, ended, rfl⟩ := one
  obtain ⟨front', ended', same⟩ := other
  have lines := Text.ended_append_inj ended ended' (newline_notMem_header_counts _ _ _)
    (newline_notMem_header_counts _ _ _) (List.append_cancel_right same)
  exact header_counts_inj lines

theorem ended_flatten {ls : List Text} (each : ∀ l ∈ ls, l.getLast? = some '\n') :
    Text.Ended ls.flatten := by
  induction ls with
  | nil => exact nofun
  | cons l rest ih =>
    intro c last
    have later := ih fun k mem => each k (List.mem_cons_of_mem l mem)
    have here := each l List.mem_cons_self
    rw [List.flatten_cons, List.getLast?_append, here] at last
    cases ending : rest.flatten.getLast? with
    | none =>
      rw [ending] at last
      exact (Option.some.inj last).symm
    | some d =>
      rw [ending] at last
      exact Option.some.inj last ▸ later d ending

/-- The lines of a list of reports end with the counts of those read and of those at fault. -/
theorem counts_render_iff (colored : Bool) (rs : List Report) (parsed failed : Nat) :
    Counts colored ((Document.reports rs).render .terminal colored) parsed failed ↔
      parsed = rs.length - Report.failures rs ∧ failed = Report.failures rs := by
  have written : Counts colored ((Document.reports rs).render .terminal colored)
      (rs.length - Report.failures rs) (Report.failures rs) := by
    have front : ∀ l ∈ rs.flatMap (reportLines colored), l.getLast? = some '\n' := fun l mem => by
      obtain ⟨r, -, inside⟩ := List.mem_flatMap.mp mem
      exact reportLines_ended colored r l inside
    refine ⟨(rs.flatMap (reportLines colored)).flatten, ended_flatten front, ?_⟩
    simp [Document.render, Document.chunks, lines, summary, counts]
  constructor
  · exact fun read => read.unique written
  · rintro ⟨rfl, rfl⟩
    exact written

end Terminal

namespace Json

def keys : Json → List Text
  | object fields => fields.map Prod.fst
  | _ => []

def Lists (s : Text) (items : List Json) : Prop := s = (list items).pretty 0 ++ "\n"

end Json

theorem Report.error_mem_keys_iff (r : Report) :
    ("error" : Text) ∈ r.toJson.keys ↔ r.isOk = false := by
  obtain ⟨input, outcome⟩ := r
  cases outcome with
  | ok sig => simp [toJson, Json.keys, isOk]
  | error fault => simp [toJson, Json.keys, isOk]

theorem Document.lists_render_iff (colored : Bool) (rs : List Report) (items : List Json) :
    Json.Lists ((Document.reports rs).render .json colored) items ↔
      items = rs.map Report.toJson := by
  rw [render_json, Json.Lists]
  constructor
  · intro same
    obtain ⟨trees, -⟩ := Json.pretty_append_inj 0 _ _ _ _ same
    exact (Json.list.inj trees).symm
  · rintro rfl
    rfl

end MethodSignature
