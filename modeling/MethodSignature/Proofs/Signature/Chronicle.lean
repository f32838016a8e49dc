import MethodSignature.Proofs.Signature.Grammar

/-!
What reading a signature logs. The log follows the outcome: an event for each argument up to the
first malformed one, an event for that one, and a verdict that closes the log. A text that is
rejected before its arguments are looked at leaves the verdict alone.
-/

namespace MethodSignature

structure Event.Entry where
  level : Level
  message : Text
  fields : List (Text × Event.Field)

def Event.entry (e : Event) : Event.Entry := ⟨e.level, e.message, e.fields⟩

namespace Signature
open Brackets Split

def IsWritten (token : Text) : Prop := ∃ a, WrittenArgument token a

theorem readArgument_of_written {token : Text} {a : Argument}
    (written : WrittenArgument token a) :
    readArgument token = ⟨.ok a, [.argumentParsed a]⟩ := by
  have accepted : (readArgument token).value = .ok a :=
    (readArgument_value_eq_ok_iff_written written.comma_notMem).mpr written
  rw [readArgument] at accepted ⊢
  split at accepted
  · rw [Except.ok.inj accepted]
  · cases accepted

/-- How many parts a token has at its spaces, not counting empty ones at its end. -/
def partCount (token : Text) : Nat := ((token.splitOn ' ').rdropWhile List.isEmpty).length

theorem length_argumentParts (token : Text) : (argumentParts token).length = partCount token := by
  rw [argumentParts, pieces_beq]
  rfl

theorem readArgument_of_not_isWritten {token : Text} (commaFree : ',' ∉ token)
    (malformed : ¬ IsWritten token) :
    readArgument token = ⟨.error .malformedArgument,
      [.argumentMalformed token (partCount token)]⟩ := by
  have refused (a : Argument) : (readArgument token).value ≠ .ok a := fun accepted =>
    malformed ⟨a, (readArgument_value_eq_ok_iff_written commaFree).mp accepted⟩
  rw [readArgument] at refused ⊢
  split at refused
  · exact absurd rfl (refused _)
  · rw [length_argumentParts]

theorem readTokens_append {front : List Text} {args : List Argument}
    (written : List.Forall₂ WrittenArgument front args) (rest : List Text) :
    readTokens (front ++ rest) = ⟨(readTokens rest).value.map (args ++ ·),
      args.map .argumentParsed ++ (readTokens rest).events⟩ := by
  induction written with
  | nil =>
    rw [List.nil_append]
    cases readTokens rest with
    | mk value events => cases value <;> rfl
  | @cons token a front args first _ ih =>
    rw [List.cons_append, readTokens, readArgument_of_written first, ih]
    cases (readTokens rest).value <;> rfl

theorem readTokens_of_written {tokens : List Text} {args : List Argument}
    (written : List.Forall₂ WrittenArgument tokens args) :
    readTokens tokens = ⟨.ok args, args.map .argumentParsed⟩ := by
  have whole := readTokens_append written []
  simpa [readTokens, Except.map] using whole

/-- Nothing behind the first malformed token is looked at. -/
theorem readTokens_of_malformed {token : Text} (commaFree : ',' ∉ token)
    (malformed : ¬ IsWritten token) (later : List Text) :
    readTokens (token :: later) = ⟨.error .malformedArgument,
      [.argumentMalformed token (partCount token)]⟩ := by
  rw [readTokens, readArgument_of_not_isWritten commaFree malformed]

theorem forall₂_written_or_first (tokens : List Text) :
    (∃ args, List.Forall₂ WrittenArgument tokens args) ∨
      ∃ front token later args, tokens = front ++ token :: later ∧
        List.Forall₂ WrittenArgument front args ∧ ¬ IsWritten token := by
  induction tokens with
  | nil => exact .inl ⟨[], .nil⟩
  | cons token rest ih =>
    by_cases first : IsWritten token
    · obtain ⟨a, first⟩ := first
      cases ih with
      | inl all =>
        obtain ⟨args, written⟩ := all
        exact .inl ⟨a :: args, .cons first written⟩
      | inr stop =>
        obtain ⟨front, other, later, args, rfl, written, malformed⟩ := stop
        exact .inr ⟨token :: front, other, later, a :: args, rfl, .cons first written, malformed⟩
    · exact .inr ⟨[], token, rest, [], rfl, .nil, first⟩

inductive Listing (list : Text) : Except Fault (List Argument) → List Event → Prop
  | gapped : Listing list (.error .emptyArgument) []
  | complete (args : List Argument) : Listing list (.ok args) (args.map .argumentParsed)
  | stopped {front later : List Text} {token : Text} {args : List Argument}
      (tokens : filled (segments list) = front ++ token :: later)
      (written : List.Forall₂ WrittenArgument front args) (malformed : ¬ IsWritten token) :
      Listing list (.error .malformedArgument)
        (args.map .argumentParsed ++ [.argumentMalformed token (partCount token)])

theorem listing (list : Text) :
    Listing list (readArguments list).value (readArguments list).events := by
  by_cases empty : HasEmptyArgument list
  · rw [readArguments_of_empty empty]
    exact .gapped
  · rw [readArguments_of_not_empty empty]
    cases forall₂_written_or_first (filled (segments list)) with
    | inl all =>
      obtain ⟨args, written⟩ := all
      rw [readTokens_of_written written]
      exact .complete args
    | inr stop =>
      obtain ⟨front, token, later, args, tokens, written, malformed⟩ := stop
      have segment : token ∈ segments list := by
        refine (mem_filled.mp ?_).1
        rw [tokens]
        exact List.mem_append_right front List.mem_cons_self
      rw [tokens, readTokens_append written,
        readTokens_of_malformed (notMem_of_mem_segments segment) malformed]
      exact .stopped tokens written malformed

theorem readHead_eq_error {before : Text} {fault : Fault}
    (failed : readHead before = .error fault) : fault = .wordCount := by
  rw [readHead] at failed
  split at failed
  · cases failed
  · cases failed
  · exact (Except.error.inj failed).symm

def argumentEntry (a : Argument) : Event.Entry :=
  ⟨.trace, "parsed argument", [("arg_type", .text a.type), ("name", .text a.name)]⟩

def malformedEntry (token : Text) : Event.Entry :=
  ⟨.trace, "malformed argument", [("token", .text token), ("parts", .count (partCount token))]⟩

def acceptedEntry (sig : Signature) : Event.Entry :=
  ⟨.debug, "parsed signature",
    [("method", .text sig.name), ("arguments", .count sig.arguments.length)]⟩

def rejectedEntry (s : Text) (fault : Fault) : Event.Entry :=
  ⟨.debug, "rejected signature", [("input", .text s), ("error", .shown fault.message)]⟩

inductive Chronicle (s : Text) : Except Fault Signature → List Event.Entry → Prop
  | accepted (sig : Signature) :
      Chronicle s (.ok sig) (sig.arguments.map argumentEntry ++ [acceptedEntry sig])
  | malformed {before between after token : Text} {front later : List Text}
      {args : List Argument} (cut : Cut s before between after)
      (tokens : filled (segments between) = front ++ token :: later)
      (written : List.Forall₂ WrittenArgument front args) (malformed : ¬ IsWritten token) :
      Chronicle s (.error .malformedArgument) (args.map argumentEntry ++
        [malformedEntry token, rejectedEntry s .malformedArgument])
  | rejected {fault : Fault} (other : fault ≠ .malformedArgument) :
      Chronicle s (.error fault) [rejectedEntry s fault]

theorem map_entry_argumentParsed (args : List Argument) :
    (args.map .argumentParsed).map Event.entry = args.map argumentEntry := by
  rw [List.map_map]
  rfl

/-- The log of reading a signature shows what became of it and of its arguments. -/
theorem parse_chronicle (s : Text) :
    Chronicle s (parse? s) ((parse s).events.map Event.entry) := by
  rw [parse?, parse_value, parse_events]
  by_cases unpaired : Unpaired s
  · rw [read, locate?_eq_none_iff.mpr unpaired]
    exact .rejected (by decide)
  · obtain ⟨before, between, after, cut⟩ := exists_cut_of_not_unpaired unpaired
    rw [read_of_cut cut]
    cases first : readHead before with
    | error fault =>
      rw [readHead_eq_error first]
      exact .rejected (by decide)
    | ok head =>
      have listed := listing between
      dsimp only
      rw [List.map_append]
      -- Only what the listing says of the arguments is used from here on.
      generalize (readArguments between).value = outcome at listed
      generalize (readArguments between).events = events at listed
      cases listed with
      | gapped => exact .rejected (by decide)
      | complete args =>
        rw [map_entry_argumentParsed]
        exact .accepted (ofHead head args)
      | stopped tokens written malformed =>
        rw [List.map_append, map_entry_argumentParsed, List.append_assoc]
        exact .malformed cut tokens written malformed

example : (parse "int f(int a, b c d, e)").events.map Event.entry =
    [argumentEntry ⟨"int", "a"⟩, malformedEntry "b c d",
      rejectedEntry "int f(int a, b c d, e)" .malformedArgument] := rfl

end Signature

end MethodSignature
