import MethodSignature.Command.Parse
import MethodSignature.Proofs.Output.Reports
import MethodSignature.Proofs.Program.Override
import MethodSignature.Proofs.Storage.Written

/-!
Parsing from end to end. Where the inputs cannot be had or the file cannot be created, the command
fails and leaves everything as it was. Otherwise the destination holds what was read of every
input in its order, and the result, the log and the output say the same about success. Only a file
system that does not take all that is written leaves a start of that, and an error.
-/

namespace MethodSignature

namespace OutputOptions

def Refused (o : OutputOptions) (fs : FileSystem) : Prop :=
  ∃ path cause, o.file = some path ∧ fs.create path = .error cause

/-- All that is written to the file, if there is one, is taken. -/
def Taken (o : OutputOptions) (fs : FileSystem) : Prop :=
  ∀ path l, o.file = some path → fs.LeadsTo path l → fs.Takes l

/-- The octets are where the options say, and nothing else is different. -/
structure Delivered (o : OutputOptions) (fs after : FileSystem) (stdout octets : Bytes) :
    Prop where
  printed : o.file = none → stdout = octets ∧ after = fs
  stored : ∀ path, o.file = some path →
    stdout = [] ∧ ∃ l, fs.Replaced after l octets ∧ after.find path = .ok (l, .file octets)

def CutShort (o : OutputOptions) (fs after : FileSystem) (octets : Bytes) : Prop :=
  ∃ path l, o.file = some path ∧ fs.Opens path l ∧ ¬ fs.Takes l ∧ fs.Cut after l octets

inductive Emission (o : OutputOptions) (fs : FileSystem) (d : Document) : Prop
  | refused {e : CommandError} (refused : o.Refused fs)
      (emitted : o.emit fs d = (.error e, fs, []))
  | cut {e : CommandError} {left : FileSystem} (free : ¬ o.Refused fs) (short : ¬ o.Taken fs)
      (emitted : o.emit fs d = (.error e, left, []))
      (cut : o.CutShort fs left (o.octets d))
  | delivered {after : FileSystem} {stdout : Bytes} (free : ¬ o.Refused fs) (taken : o.Taken fs)
      (emitted : o.emit fs d = (.ok (), after, stdout))
      (delivered : o.Delivered fs after stdout (o.octets d))

theorem not_refused_of_created {o : OutputOptions} {fs : FileSystem} {path : Path}
    (destination : o.file = some path) {opened : FileSystem × Location}
    (created : fs.create path = .ok opened) : ¬ o.Refused fs := by
  rintro ⟨other, cause, named, failed⟩
  obtain rfl : path = other := Option.some.inj (destination.symm.trans named)
  rw [created] at failed
  cases failed

theorem emission (o : OutputOptions) (fs : FileSystem) (d : Document) : o.Emission fs d := by
  cases destination : o.file with
  | none =>
    have nowhere (path : Path) : o.file ≠ some path := by
      rw [destination]
      exact nofun
    refine .delivered (fun ⟨path, _, named, _⟩ => nowhere path named)
      (fun path _ named => absurd named (nowhere path)) (by rw [emit, destination])
      ⟨fun _ => ⟨rfl, rfl⟩, fun path named => absurd named (nowhere path)⟩
  | some path =>
    have only {other : Path} (named : o.file = some other) : path = other :=
      Option.some.inj (destination.symm.trans named)
    cases fs.writing path (o.octets_ne_nil d) with
    | @refused cause failed closed =>
      refine .refused (e := .uncreatable path cause) ⟨path, cause, destination, failed⟩ ?_
      simp only [emit, destination, failed]
    | @cut l opened left cause opens created broken short cut =>
      have emitted : o.emit fs d = (.error (.failed (.storage cause)), left, []) := by
        simp only [emit, destination, created, broken]
      exact .cut (not_refused_of_created destination created)
        (fun taken => short (taken path l destination opens.leads)) emitted
        ⟨path, l, destination, opens, short, cut⟩
    | @done l opened after opens created filled takes replaced =>
      have emitted : o.emit fs d = (.ok (), after, []) := by
        simp only [emit, destination, created, filled]
      refine .delivered (not_refused_of_created destination created) ?_ emitted ⟨?_, ?_⟩
      · intro other k named leads
        obtain rfl := only named
        exact opens.leads.unique leads ▸ takes
      · intro none
        rw [destination] at none
        cases none
      · intro other named
        obtain rfl := only named
        exact ⟨rfl, l, replaced, replaced.find opens.leads⟩

end OutputOptions

namespace Event

def IsCount (e : Event) : Prop := e.message = "parsed signatures"

instance (e : Event) : Decidable e.IsCount := inferInstanceAs (Decidable (_ = _))

def concernsOne : Event → Bool
  | argumentParsed _ => true
  | argumentMalformed _ _ => true
  | signatureParsed _ _ => true
  | signatureRejected _ _ => true
  | _ => false

theorem not_isCount_of_concernsOne {e : Event} (one : e.concernsOne = true) : ¬ e.IsCount := by
  cases e with
  | argumentParsed a =>
    change ¬ ("parsed argument" : Text) = "parsed signatures"
    decide
  | argumentMalformed token parts =>
    change ¬ ("malformed argument" : Text) = "parsed signatures"
    decide
  | signatureParsed name arguments =>
    change ¬ ("parsed signature" : Text) = "parsed signatures"
    decide
  | signatureRejected input fault =>
    change ¬ ("rejected signature" : Text) = "parsed signatures"
    decide
  | _ => cases one

end Event

namespace Signature

theorem concernsOne_of_mem_readArgument {token : Text} :
    ∀ e ∈ (readArgument token).events, e.concernsOne = true := by
  intro e mem
  unfold readArgument at mem
  split at mem
  · rw [List.mem_singleton.mp mem]
    rfl
  · rw [List.mem_singleton.mp mem]
    rfl

theorem concernsOne_of_mem_readTokens {tokens : List Text} :
    ∀ e ∈ (readTokens tokens).events, e.concernsOne = true := by
  induction tokens with
  | nil => exact nofun
  | cons token rest ih =>
    intro e mem
    unfold readTokens at mem
    dsimp only at mem
    split at mem
    · exact concernsOne_of_mem_readArgument e mem
    · cases List.mem_append.mp mem with
      | inl first => exact concernsOne_of_mem_readArgument e first
      | inr later => exact ih e later

theorem concernsOne_of_mem_readArguments {list : Text} :
    ∀ e ∈ (readArguments list).events, e.concernsOne = true := by
  intro e mem
  unfold readArguments at mem
  dsimp only at mem
  split at mem
  · cases mem
  · exact concernsOne_of_mem_readTokens e mem

theorem concernsOne_of_mem_parse {s : Text} :
    ∀ e ∈ (parse s).events, e.concernsOne = true := by
  intro e mem
  rw [parse_events] at mem
  cases List.mem_append.mp mem with
  | inl before =>
    unfold read at before
    split at before
    · cases before
    · split at before
      · cases before
      · exact concernsOne_of_mem_readArguments e before
  | inr verdict =>
    rw [List.mem_singleton.mp verdict]
    cases (read s).value with
    | ok sig => rfl
    | error fault => rfl

end Signature

namespace Report

theorem filter_isCount_ofInputs (inputs : List Text) :
    (ofInputs inputs).events.filter (·.IsCount) = [] := by
  rw [List.filter_eq_nil_iff, ofInputs_events]
  intro e mem
  obtain ⟨s, -, inside⟩ := List.mem_flatMap.mp mem
  have other := Event.not_isCount_of_concernsOne (Signature.concernsOne_of_mem_parse e inside)
  simpa using other

theorem failures_eq_zero_iff (inputs : List Text) :
    failures (ofInputs inputs).value = 0 ↔ ∀ s ∈ inputs, ∃ sig, Signature.parse? s = .ok sig := by
  have fine (s : Text) :
      isOk ⟨s, Signature.parse? s⟩ = true ↔ ∃ sig, Signature.parse? s = .ok sig := by
    unfold isOk
    cases Signature.parse? s with
    | ok sig => exact iff_of_true rfl ⟨sig, rfl⟩
    | error fault => exact iff_of_false nofun nofun
  rw [failures, List.countP_eq_zero, ofInputs_value]
  simp [fine]

end Report

namespace Command

structure Tally (o : OutputOptions) (inputs : List Text) (text : Text) (events : List Event)
    (succeeded : Bool) : Prop where
  read : succeeded = true ↔ ∀ s ∈ inputs, ∃ sig, Signature.parse? s = .ok sig
  log : ∃ failed, events.filter (·.IsCount) = [.signaturesParsed inputs.length failed] ∧
    (succeeded = true ↔ failed = 0)
  lines : o.format = .terminal →
    (∃ parsed failed, Terminal.Counts o.color.enabled text parsed failed) ∧
      ∀ parsed failed, Terminal.Counts o.color.enabled text parsed failed →
        parsed + failed = inputs.length ∧ (succeeded = true ↔ failed = 0)
  list : o.format = .json →
    (∃ items, Json.Lists text items) ∧
      ∀ items, Json.Lists text items →
        items.length = inputs.length ∧
          (succeeded = true ↔ ∀ item ∈ items, ("error" : Text) ∉ item.keys)

theorem tally (o : OutputOptions) (inputs : List Text) :
    Tally o inputs
      ((Document.reports (Report.ofInputs inputs).value).render o.format o.color.enabled)
      ((Report.ofInputs inputs).events ++ [.signaturesParsed (Report.ofInputs inputs).value.length
        (Report.failures (Report.ofInputs inputs).value)])
      (Report.failures (Report.ofInputs inputs).value == 0) := by
  have length : (Report.ofInputs inputs).value.length = inputs.length := by
    rw [Report.ofInputs_value, List.length_map]
  have none := Report.failures_eq_zero_iff inputs
  have quiet := Report.filter_isCount_ofInputs inputs
  generalize (Report.ofInputs inputs).value = reports at length none
  generalize (Report.ofInputs inputs).events = events at quiet
  have verdict : (Report.failures reports == 0) = true ↔ Report.failures reports = 0 := beq_iff_eq
  constructor
  case read => exact verdict.trans none
  case log =>
    refine ⟨Report.failures reports, ?_, verdict⟩
    rw [List.filter_append, quiet, length]
    rfl
  case lines =>
    intro terminal
    rw [terminal]
    have counted := Terminal.counts_render_iff o.color.enabled reports
    refine ⟨⟨_, _, (counted _ _).mpr ⟨rfl, rfl⟩⟩, fun parsed failed counts => ?_⟩
    obtain ⟨rfl, rfl⟩ := (counted parsed failed).mp counts
    have atMost : Report.failures reports ≤ reports.length := List.countP_le_length
    exact ⟨(Nat.sub_add_cancel atMost).trans length, verdict⟩
  case list =>
    intro json
    rw [json]
    have listed := Document.lists_render_iff o.color.enabled reports
    refine ⟨⟨_, (listed _).mpr rfl⟩, fun items lists => ?_⟩
    have fine (r : Report) : ¬ (!r.isOk) = true ↔ ("error" : Text) ∉ r.toJson.keys := by
      rw [Report.error_mem_keys_iff, Bool.not_eq_true']
    rw [(listed items).mp lists, List.length_map, verdict, Report.failures, List.countP_eq_zero,
      List.forall_mem_map]
    exact ⟨length, forall₂_congr fun r _ => fine r⟩

/-- Where the inputs cannot be had or the file cannot be created, the command fails, and nothing is
different or printed. Otherwise the one text that shows what was read of every input is where it
should be, nothing else is different, and result, log and output agree on success; unless the file
does not take it all, which is an error and leaves a start of it there. -/
theorem parse_outcome (o : OutputOptions) (signatures : List Text) (stdin : Bytes)
    (fs : FileSystem) :
    ((∃ e, collectInputs signatures stdin = .error e) ∨ o.Refused fs) ∧
        (∃ e, (parse o signatures stdin fs).result = .error e) ∧
        (parse o signatures stdin fs).fileSystem = fs ∧
        (parse o signatures stdin fs).stdout = [] ∨
      ∃ inputs text, collectInputs signatures stdin = .ok inputs ∧ ¬ o.Refused fs ∧
        (∀ other, o.format.Shows o.color.enabled inputs other ↔ other = text) ∧
        (o.Taken fs ∧
            (∃ succeeded, (parse o signatures stdin fs).result = .ok succeeded ∧
              Tally o inputs text (parse o signatures stdin fs).events succeeded) ∧
            o.Delivered fs (parse o signatures stdin fs).fileSystem
              (parse o signatures stdin fs).stdout (Text.encode text) ∨
          ¬ o.Taken fs ∧
            (∃ e, (parse o signatures stdin fs).result = .error e) ∧
            (parse o signatures stdin fs).stdout = [] ∧
            o.CutShort fs (parse o signatures stdin fs).fileSystem (Text.encode text)) := by
  unfold parse
  cases collected : collectInputs signatures stdin with
  | error e => exact .inl ⟨.inl ⟨e, rfl⟩, ⟨e, rfl⟩, rfl, rfl⟩
  | ok inputs =>
    dsimp only
    cases o.emission fs (.reports (Report.ofInputs inputs).value) with
    | refused refused emitted =>
      rw [emitted]
      exact .inl ⟨.inr refused, ⟨_, rfl⟩, rfl, rfl⟩
    | cut free short emitted cut =>
      rw [emitted]
      rw [o.octets_eq] at cut
      exact .inr ⟨inputs, _, rfl, free, o.format.shows_iff_render o.color.enabled inputs,
        .inr ⟨short, ⟨_, rfl⟩, rfl, cut⟩⟩
    | delivered free taken emitted delivered =>
      rw [emitted]
      rw [o.octets_eq] at delivered
      exact .inr ⟨inputs, _, rfl, free, o.format.shows_iff_render o.color.enabled inputs,
        .inl ⟨taken, ⟨_, rfl, tally o inputs⟩, delivered⟩⟩

end Command

end MethodSignature
