import MethodSignature.Program
import MethodSignature.Proofs.Output.Sink
import MethodSignature.Proofs.Storage.Agreement

/-!
The command line over the configuration. A command line that names the format and the delimiters
leaves only color open, and only in the mode `auto`: then the configuration still has its say.
Two runs that differ in nothing but configuration files end with the same code; in the other
modes, and wherever the configurations agree on color, also with the same output and files. Where
they do not agree on color, what goes to the standard output differs.
-/

namespace MethodSignature

namespace Color.Mode

theorem enabled_forDestination (mode : Mode) (toFile : Bool) :
    (mode.forDestination toFile).enabled = mode.enabled := by
  cases mode <;> cases toFile <;> rfl

end Color.Mode

def Config.colorsAuto (config : Config) (env : Environment) : Bool :=
  config.useColor.getD (Color.Mode.ofEnvironment env .auto).enabled

namespace Color.Mode

theorem enabled_choose_auto (config : Config) (env : Environment) :
    (choose .auto config env).enabled = config.colorsAuto env := by
  unfold choose Config.colorsAuto
  cases config.useColor with
  | none => rfl
  | some on => cases on <;> rfl

theorem enabled_choose_eq_iff (mode : Mode) (config second : Config) (env : Environment) :
    (mode.choose second env).enabled = (mode.choose config env).enabled ↔
      (mode = .auto → second.colorsAuto env = config.colorsAuto env) := by
  cases mode with
  | auto => simp [enabled_choose_auto]
  | always => exact iff_of_true rfl nofun
  | never => exact iff_of_true rfl nofun

end Color.Mode

namespace Document

theorem render_terminal_ne (d : Document) :
    d.render .terminal true ≠ d.render .terminal false := by
  intro same
  cases d with
  | reports rs =>
    -- before the last line feed stands the end of the reset, or that of the word `failed`
    have backwards := congrArg List.reverse same
    simp [render, chunks, Terminal.lines, Terminal.summary, Color.Style.apply,
      Color.Style.paint, Color.reset] at backwards
  | split result =>
    obtain ⟨c, s, digits, digit⟩ := Text.exists_digit_cons_ofNat result.tokens.length
    have painted : (render .terminal true (.split result)).head? = some '\x1b' := rfl
    have plain : (render .terminal false (.split result)).head? = some c := by
      rw [render, chunks, Terminal.lines, Color.Style.apply, digits]
      rfl
    rw [← same, painted] at plain
    rw [← Option.some.inj plain] at digit
    exact absurd digit (by decide)

theorem render_terminal_inj (d : Document) {colored colored' : Bool} :
    d.render .terminal colored = d.render .terminal colored' ↔ colored = colored' := by
  cases colored <;> cases colored' <;> simp [d.render_terminal_ne, d.render_terminal_ne.symm]

end Document

/-- How two outcomes compare: they end alike, and where `same` holds they leave the same behind,
but for hidden files. What goes to the standard output is the same only there, or when there is
none of it. -/
structure Outcome.Agree {α : Type} (hidden : Location → Prop) (same : Prop) (a b : Outcome α) :
    Prop where
  result : Alike Eq a.result b.result
  stdout : b.stdout = a.stdout ↔ a.stdout = [] ∨ same
  fileSystem : same → a.fileSystem.AgreeOutside hidden b.fileSystem

namespace OutputOptions

structure WritesLike (same : Prop) (o p : OutputOptions) : Prop where
  file : p.file = o.file
  octets : ∀ d, p.octets d = o.octets d ↔ same

theorem octets_eq (o : OutputOptions) (d : Document) :
    o.octets d = Text.encode (d.render o.format o.color.enabled) := by
  rw [octets, writer, Writer.ofMode, Color.Mode.enabled_forDestination]

theorem octets_ne_nil (o : OutputOptions) (d : Document) : o.octets d ≠ [] :=
  Text.encode_ne_nil (d.render_ne_nil _ _)

theorem WritesLike.ofColors (format : Format) (mode second : Color.Mode) (file : Option Path) :
    WritesLike (format = .json ∨ second.enabled = mode.enabled)
      ⟨format, mode, file⟩ ⟨format, second, file⟩ := by
  refine ⟨rfl, fun d => ?_⟩
  rw [octets_eq, octets_eq, Text.encode_inj]
  cases format with
  | json => exact iff_of_true rfl (.inl rfl)
  | terminal => simp [Document.render_terminal_inj]

def outcome (o : OutputOptions) (fs : FileSystem) (d : Document) : Outcome Unit :=
  ⟨(o.emit fs d).1, (o.emit fs d).2.1, (o.emit fs d).2.2, []⟩

theorem outcome_agree {hidden : Location → Prop} {same : Prop} {fs other : FileSystem}
    (agree : fs.AgreeOutside hidden other) {o p : OutputOptions} (like : o.WritesLike same p)
    (outside : ∀ path ∈ o.file, ∀ place, fs.locate path = .ok place → ¬ hidden place.location)
    (d : Document) : (o.outcome fs d).Agree hidden same (p.outcome other d) := by
  unfold outcome emit
  rw [like.file]
  cases destination : o.file with
  | none =>
    have silent : ¬ o.octets d = [] := o.octets_ne_nil d
    exact ⟨.ok rfl, (like.octets d).trans (or_iff_right silent).symm, fun _ => agree⟩
  | some path =>
    -- nothing goes to the standard output, whether or not the file can be opened and filled
    have quiet : ([] : Bytes) = [] ↔ ([] : Bytes) = [] ∨ same := iff_of_true rfl (.inl rfl)
    have created := agree.create (outside path destination)
    simp only
    generalize fs.create path = first at created
    generalize other.create path = again at created
    cases created with
    | error e d => exact ⟨.error _ _, quiet, fun _ => agree⟩
    | @ok a b related =>
      obtain ⟨opened, _⟩ := a
      obtain ⟨reopened, location⟩ := b
      obtain ⟨rfl, seen, agree⟩ := related
      have filled := agree.fill seen
        (iff_of_false (p.octets_ne_nil d) (o.octets_ne_nil d))
      dsimp only at filled ⊢
      obtain ⟨alike, left⟩ := filled
      generalize opened.fill location (o.octets d) = first at alike left
      generalize reopened.fill location (p.octets d) = again at alike left
      obtain ⟨result, written⟩ := first
      obtain ⟨outcome, rewritten⟩ := again
      obtain rfl : outcome = result := alike
      have remains (equal : same) : written.AgreeOutside hidden rewritten :=
        left ((like.octets d).mpr equal)
      cases outcome with
      | error cause => exact ⟨.error _ _, quiet, remains⟩
      | ok _ => exact ⟨.ok rfl, quiet, remains⟩

end OutputOptions

namespace Command

section

variable {hidden : Location → Prop} {same : Prop} {fs other : FileSystem} {o p : OutputOptions}

theorem parse_agree (agree : fs.AgreeOutside hidden other) (like : o.WritesLike same p)
    (outside : ∀ path ∈ o.file, ∀ place, fs.locate path = .ok place → ¬ hidden place.location)
    (signatures : List Text) (stdin : Bytes) :
    (parse o signatures stdin fs).Agree hidden same (parse p signatures stdin other) := by
  unfold parse
  cases collectInputs signatures stdin with
  | error e => exact ⟨.error e e, iff_of_true rfl (.inl rfl), fun _ => agree⟩
  | ok inputs =>
    obtain ⟨result, stdout, files⟩ := OutputOptions.outcome_agree agree like outside
      (.reports (Report.ofInputs inputs).value)
    exact ⟨result.bind fun _ _ _ _ => .ok rfl, stdout, files⟩

theorem split_agree (agree : fs.AgreeOutside hidden other) (like : o.WritesLike same p)
    (outside : ∀ path ∈ o.file, ∀ place, fs.locate path = .ok place → ¬ hidden place.location)
    (source : Text) (delimiters : List Text) :
    (split o source delimiters fs).Agree hidden same (split p source delimiters other) := by
  obtain ⟨result, stdout, files⟩ := OutputOptions.outcome_agree agree like outside
    (.split (SplitResult.of source delimiters).value)
  exact ⟨result, stdout, files⟩

end

end Command

def Config.IsLocation (directory l : Location) : Prop :=
  ∃ ancestor, ancestor <+: directory ∧ l = ancestor ++ [fileName]

namespace CommandLine

namespace Request

def format? : Request → Option Format
  | parse _ format _ => format
  | split _ _ format _ => format
  | init _ => none

def output? : Request → Option Path
  | parse _ _ output => output
  | split _ _ _ output => output
  | init _ => none

def IsExplicit : Request → Prop
  | parse _ format _ => format.isSome
  | split _ delimiters format _ => format.isSome ∧ delimiters ≠ []
  | init _ => False

end Request

/-- Two configurations that leave an invocation no difference in color: the format has none, the
mode is settled, or they say the same about it. -/
def Invocation.SettlesColor (invocation : Invocation) (env : Environment)
    (config second : Config) : Prop :=
  invocation.request.format? = some .json ∨
    (invocation.color = .auto → second.colorsAuto env = config.colorsAuto env)

end CommandLine

namespace Program

structure Result.Agree (hidden : Location → Prop) (same : Prop) (a b : Result) : Prop where
  exitCode : b.exitCode = a.exitCode
  stdout : b.stdout = a.stdout ↔ a.stdout = [] ∨ same
  fileSystem : same → a.fileSystem.AgreeOutside hidden b.fileSystem

theorem finished_agree {α : Type} {hidden : Location → Prop} {same : Prop} {a b : Outcome α}
    (agree : a.Agree hidden same b) (succeeded : α → Bool) (before later : List Event) :
    (finished succeeded before a).Agree hidden same (finished succeeded later b) := by
  refine ⟨?_, agree.stdout, agree.fileSystem⟩
  obtain ⟨result, files, stdout, events⟩ := a
  obtain ⟨result', files', stdout', events'⟩ := b
  obtain ⟨alike, -, -⟩ := agree
  cases alike with
  | ok same => rw [finished, finished, same]
  | error e d => rfl

section

variable {arguments : List Bytes} {env : Environment} {stdin : Bytes} {fs other : FileSystem}
  {invocation : CommandLine.Invocation}

theorem perform_agree {hidden : Location → Prop} (agree : fs.AgreeOutside hidden other)
    (explicit : invocation.request.IsExplicit)
    (outside : ∀ path ∈ invocation.request.output?, ∀ place, fs.locate path = .ok place →
      ¬ hidden place.location)
    (config second : Logged Config) :
    (perform ⟨arguments, env, stdin, fs⟩ invocation config).Agree hidden
      (invocation.SettlesColor env config.value second.value)
      (perform ⟨arguments, env, stdin, other⟩ invocation second) := by
  obtain ⟨verbosity, mode, request⟩ := invocation
  rw [CommandLine.Invocation.SettlesColor, ← Color.Mode.enabled_choose_eq_iff]
  cases request with
  | parse signatures format output =>
    obtain ⟨format, rfl⟩ := Option.isSome_iff_exists.mp explicit
    rw [CommandLine.Request.format?, Option.some.injEq]
    exact finished_agree
      (Command.parse_agree agree (.ofColors _ _ _ _) outside signatures stdin) _ _ _
  | split source delimiters format output =>
    obtain ⟨named, cuts⟩ := explicit
    obtain ⟨format, rfl⟩ := Option.isSome_iff_exists.mp named
    have given : delimiters.isEmpty = false := by simpa using cuts
    rw [CommandLine.Request.format?, Option.some.injEq]
    simp only [perform, given]
    exact finished_agree
      (Command.split_agree agree (.ofColors _ _ _ _) outside source delimiters) _ _ _
  | init force => exact explicit.elim

/-- Two runs of a command line that names the format and the delimiters, which differ in nothing
but configuration files, end with the same code. Unless the color is left to these, and they
differ in it, the runs also leave the same output and files; otherwise what is written to the
standard output differs. -/
theorem run_agree_of_isExplicit (line : CommandLine.read arguments env = .ok invocation)
    (explicit : invocation.request.IsExplicit)
    (agree : fs.AgreeOutside (Config.IsLocation fs.workingDirectory) other)
    (outside : ∀ path ∈ invocation.request.output?, ∀ place, fs.locate path = .ok place →
      ¬ Config.IsLocation fs.workingDirectory place.location) :
    (run ⟨arguments, env, stdin, fs⟩).Agree (Config.IsLocation fs.workingDirectory)
      (invocation.SettlesColor env (Config.load fs).value (Config.load other).value)
      (run ⟨arguments, env, stdin, other⟩) := by
  simp only [run, line]
  cases logFilter? env invocation.verbosity with
  | none => exact ⟨rfl, iff_of_true rfl (.inl rfl), fun _ => agree⟩
  | some filter =>
    obtain ⟨exitCode, stdout, files⟩ := perform_agree agree explicit outside _ _
    exact ⟨exitCode, stdout, files⟩

end

def bare : FileSystem where
  tree := .empty
  workingDirectory := []

def colorful : FileSystem :=
  bare.put [Config.fileName] (.file (Text.encode "[output]\nuse_color = true\n"))

def parseLine (color : Text) : List Bytes :=
  [("parse" : Text), ("--format" : Text), ("terminal" : Text), ("--color" : Text), color,
    ("void f()" : Text)].map Text.encode

theorem bare_agreeOutside_colorful :
    bare.AgreeOutside (Config.IsLocation bare.workingDirectory) colorful := by
  have covered : Config.IsLocation bare.workingDirectory [Config.fileName] :=
    ⟨[], List.prefix_rfl, rfl⟩
  have vacant : bare.tree.get? [Config.fileName] ≠ some .directory := by
    decide +kernel
  exact FileSystem.agreeOutside_put covered Entry.noConfusion vacant

theorem run_never_agree :
    (run ⟨parseLine "never", ⟨[]⟩, [], colorful⟩).exitCode =
        (run ⟨parseLine "never", ⟨[]⟩, [], bare⟩).exitCode ∧
      (run ⟨parseLine "never", ⟨[]⟩, [], colorful⟩).stdout =
        (run ⟨parseLine "never", ⟨[]⟩, [], bare⟩).stdout := by
  have read : (CommandLine.read (parseLine "never") ⟨[]⟩).toOption =
      some ⟨0, .never, .parse ["void f()"] (some .terminal) none⟩ := by
    decide +kernel
  cases line : CommandLine.read (parseLine "never") ⟨[]⟩ with
  | error stop => rw [line] at read; cases read
  | ok invocation =>
    rw [line] at read
    obtain rfl := Option.some.inj read
    have agree : (run ⟨parseLine "never", ⟨[]⟩, [], bare⟩).Agree _ _
        (run ⟨parseLine "never", ⟨[]⟩, [], colorful⟩) :=
      run_agree_of_isExplicit line rfl bare_agreeOutside_colorful nofun
    exact ⟨agree.exitCode, agree.stdout.mpr (.inr (.inr nofun))⟩

/-- In the mode `auto` the configuration decides, whether or not the mode is named. -/
theorem run_auto_stdout_ne :
    bare.AgreeOutside (Config.IsLocation bare.workingDirectory) colorful ∧
      (run ⟨parseLine "auto", ⟨[]⟩, [], colorful⟩).stdout ≠
        (run ⟨parseLine "auto", ⟨[]⟩, [], bare⟩).stdout :=
  ⟨bare_agreeOutside_colorful, by decide +kernel⟩

end Program

end MethodSignature
