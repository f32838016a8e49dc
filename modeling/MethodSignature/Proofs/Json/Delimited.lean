import MethodSignature.Json
import MethodSignature.Text.Digit

/-!
Written JSON ends by itself: a document and whatever text follows it can be told apart, so equal
texts hold the same document followed by the same rest. This holds of a character, a quoted
string and an indented document in turn.
-/

namespace MethodSignature.Json

open Text (digitValue?)

def ofLetter (letter : Char) : Char :=
  if letter = 'b' then '\x08'
  else if letter = 't' then '\t'
  else if letter = 'n' then '\n'
  else if letter = 'f' then '\x0c'
  else if letter = 'r' then '\r'
  else letter

def unescape? : Text → Option (Char × Text)
  | '\\' :: 'u' :: '0' :: '0' :: high :: low :: rest => do
      let high ← digitValue? high
      let low ← digitValue? low
      return (Char.ofNat (16 * high + low), rest)
  | '\\' :: letter :: rest => some (ofLetter letter, rest)
  | c :: rest => some (c, rest)
  | [] => none

theorem unescape?_cons {c : Char} (plain : c ≠ '\\') (rest : Text) :
    unescape? (c :: rest) = some (c, rest) := by
  unfold unescape?
  split <;> simp_all

theorem digitValue?_digitChar : ∀ n < 16, digitValue? (Nat.digitChar n) = some n := by
  decide

theorem unescape?_escapeChar (c : Char) (rest : Text) :
    unescape? (escapeChar c ++ rest) = some (c, rest) := by
  by_cases lettered : c ∈ ['"', '\\', '\x08', '\t', '\n', '\x0c', '\r']
  · simp only [List.mem_cons, List.not_mem_nil, or_false] at lettered
    rcases lettered with rfl | rfl | rfl | rfl | rfl | rfl | rfl <;> rfl
  · simp only [List.mem_cons, List.not_mem_nil, or_false, not_or] at lettered
    by_cases control : c.toNat < 0x20
    · have high := digitValue?_digitChar (c.toNat / 16) (by omega)
      have low := digitValue?_digitChar (c.toNat % 16) (by omega)
      have whole : 16 * (c.toNat / 16) + c.toNat % 16 = c.toNat := Nat.div_add_mod _ 16
      simp [escapeChar, lettered, control, unescape?, high, low, whole, Char.ofNat_toNat]
    · have itself : escapeChar c = [c] := by simp [escapeChar, lettered, control]
      rw [itself]
      exact unescape?_cons lettered.2.1 rest

theorem escapeChar_append_inj {c d : Char} {s t : Text}
    (same : escapeChar c ++ s = escapeChar d ++ t) : c = d ∧ s = t := by
  have first := unescape?_escapeChar c s
  rw [same, unescape?_escapeChar] at first
  simpa [eq_comm] using first

/-- A quote stands nowhere in escaped text but behind a backslash. -/
theorem escapeChar_append_ne (c : Char) (s t : Text) : escapeChar c ++ s ≠ '"' :: t := by
  intro same
  have first := unescape?_escapeChar c s
  rw [same, unescape?_cons (by decide)] at first
  obtain ⟨rfl, rfl⟩ : '"' = c ∧ t = s := by simpa using first
  simp [escapeChar] at same

theorem quote_append_inj {s t after rest : Text}
    (same : quote s ++ after = quote t ++ rest) : s = t ∧ after = rest := by
  simp only [quote, List.cons_append, List.append_assoc, List.cons.injEq, true_and,
    List.nil_append] at same
  induction s generalizing t with
  | nil =>
    cases t with
    | nil => simpa using same
    | cons d t =>
      rw [List.flatMap_cons, List.append_assoc] at same
      exact absurd same.symm (escapeChar_append_ne d _ _)
  | cons c s ih =>
    rw [List.flatMap_cons, List.append_assoc] at same
    cases t with
    | nil => exact absurd same (escapeChar_append_ne c _ _)
    | cons d t =>
      rw [List.flatMap_cons, List.append_assoc] at same
      obtain ⟨rfl, tails⟩ := escapeChar_append_inj same
      obtain ⟨rfl, rfl⟩ := ih tails
      exact ⟨rfl, rfl⟩

def mark : Json → Char
  | null => 'n'
  | string _ => '"'
  | list _ => '['
  | object _ => '\x7b'

theorem exists_pretty_eq_mark_cons (depth : Nat) (a : Json) :
    ∃ rest, a.pretty depth = a.mark :: rest := by
  cases a with
  | null => exact ⟨_, rfl⟩
  | string s => exact ⟨_, rfl⟩
  | list items =>
    cases items with
    | nil => exact ⟨_, rfl⟩
    | cons item items => exact ⟨_, by rw [pretty]; rfl⟩
  | object fields =>
    cases fields with
    | nil => exact ⟨_, rfl⟩
    | cons field fields => exact ⟨_, by rw [pretty]; rfl⟩

theorem mark_eq_of_pretty {depth : Nat} {a b : Json} {s t : Text}
    (same : a.pretty depth ++ s = b.pretty depth ++ t) : a.mark = b.mark := by
  obtain ⟨u, first⟩ := exists_pretty_eq_mark_cons depth a
  obtain ⟨v, second⟩ := exists_pretty_eq_mark_cons depth b
  rw [first, second] at same
  exact (List.cons.inj same).1

mutual

-- Both documents are followed at once. The text behind the items of a list or the fields of an
-- object starts on a new line, so it is never taken for one more of them.
theorem pretty_append_inj (depth : Nat) :
    ∀ (a b : Json) (s t : Text), a.pretty depth ++ s = b.pretty depth ++ t → a = b ∧ s = t
  | null, b, s, t, same => by
    cases b with
    | null => exact ⟨rfl, List.append_cancel_left same⟩
    | string _ | list _ | object _ => simpa [mark] using mark_eq_of_pretty same
  | string u, b, s, t, same => by
    cases b with
    | string v =>
      obtain ⟨rfl, rest⟩ := quote_append_inj same
      exact ⟨rfl, rest⟩
    | null | list _ | object _ => simpa [mark] using mark_eq_of_pretty same
  | list [], b, s, t, same => by
    cases b with
    | list others =>
      cases others with
      | nil => exact ⟨rfl, List.append_cancel_left same⟩
      | cons other others => simp [pretty, newline] at same
    | null | string _ | object _ => simpa [mark] using mark_eq_of_pretty same
  | list (item :: items), b, s, t, same => by
    cases b with
    | list others =>
      cases others with
      | nil => simp [pretty, newline] at same
      | cons other others =>
        simp only [pretty, List.cons_append, List.append_assoc, List.cons.injEq, true_and,
          List.append_cancel_left_eq] at same
        obtain ⟨rfl, tails⟩ := pretty_append_inj (depth + 1) item other _ _ same
        obtain ⟨rfl, rest⟩ := prettyItems_append_inj (depth + 1) items others _ _
          (by simp [newline]) (by simp [newline]) tails
        simp only [List.append_cancel_left_eq, List.cons.injEq, true_and] at rest
        exact ⟨rfl, rest⟩
    | null | string _ | object _ => simpa [mark] using mark_eq_of_pretty same
  | object [], b, s, t, same => by
    cases b with
    | object others =>
      cases others with
      | nil => exact ⟨rfl, List.append_cancel_left same⟩
      | cons other others => simp [pretty, newline] at same
    | null | string _ | list _ => simpa [mark] using mark_eq_of_pretty same
  | object ((key, value) :: fields), b, s, t, same => by
    cases b with
    | object others =>
      cases others with
      | nil => simp [pretty, newline] at same
      | cons other others =>
        obtain ⟨name, content⟩ := other
        simp only [pretty, List.cons_append, List.append_assoc, List.cons.injEq, true_and,
          List.append_cancel_left_eq] at same
        obtain ⟨rfl, values⟩ := quote_append_inj same
        obtain ⟨rfl, tails⟩ := pretty_append_inj (depth + 1) value content _ _
          (List.append_cancel_left values)
        obtain ⟨rfl, rest⟩ := prettyFields_append_inj (depth + 1) fields others _ _
          (by simp [newline]) (by simp [newline]) tails
        simp only [List.append_cancel_left_eq, List.cons.injEq, true_and] at rest
        exact ⟨rfl, rest⟩
    | null | string _ | list _ => simpa [mark] using mark_eq_of_pretty same

theorem prettyItems_append_inj (depth : Nat) :
    ∀ (as bs : List Json) (s t : Text), s.head? ≠ some ',' → t.head? ≠ some ',' →
      prettyItems depth as ++ s = prettyItems depth bs ++ t → as = bs ∧ s = t
  | [], [], _, _, _, _, same => ⟨rfl, same⟩
  | [], _ :: _, s, t, ends, _, same => absurd (congrArg List.head? same) ends
  | _ :: _, [], s, t, _, ends, same => absurd (congrArg List.head? same.symm) ends
  | a :: as, b :: bs, s, t, ends, ends', same => by
    simp only [prettyItems, List.cons_append, List.append_assoc, List.cons.injEq, true_and,
      List.append_cancel_left_eq] at same
    obtain ⟨rfl, tails⟩ := pretty_append_inj depth a b _ _ same
    obtain ⟨rfl, rest⟩ := prettyItems_append_inj depth as bs s t ends ends' tails
    exact ⟨rfl, rest⟩

theorem prettyFields_append_inj (depth : Nat) :
    ∀ (as bs : List (Text × Json)) (s t : Text), s.head? ≠ some ',' → t.head? ≠ some ',' →
      prettyFields depth as ++ s = prettyFields depth bs ++ t → as = bs ∧ s = t
  | [], [], _, _, _, _, same => ⟨rfl, same⟩
  | [], _ :: _, s, t, ends, _, same => absurd (congrArg List.head? same) ends
  | _ :: _, [], s, t, _, ends, same => absurd (congrArg List.head? same.symm) ends
  | (key, a) :: as, (name, b) :: bs, s, t, ends, ends', same => by
    simp only [prettyFields, List.cons_append, List.append_assoc, List.cons.injEq, true_and,
      List.append_cancel_left_eq] at same
    obtain ⟨rfl, values⟩ := quote_append_inj same
    obtain ⟨rfl, tails⟩ := pretty_append_inj depth a b _ _ (List.append_cancel_left values)
    obtain ⟨rfl, rest⟩ := prettyFields_append_inj depth as bs s t ends ends' tails
    exact ⟨rfl, rest⟩

end

end MethodSignature.Json
