import MethodSignature.Color.Plain
import MethodSignature.CommandLine.Read

/-!
Help texts: what a scope is for, how it is used, and its arguments, commands and flags in
aligned columns. Names that are typed as they are stand in bold.
-/

namespace MethodSignature.CommandLine

def programName : Text := "methodsig"

def versionText : Text := programName ++ " 0.1.0\n"

def bold (s : Text) : Text := "\x1b[1m" ++ s ++ Color.reset

def heading (s : Text) : Text := "\x1b[1m\x1b[4m" ++ s ++ ":" ++ Color.reset

structure Row where
  term : Text
  width : Nat
  about : Text

namespace Row

def plain (term about : Text) : Row := ⟨term, term.length, about⟩

def indented (column : Nat) (s : Text) : Text :=
  s.flatMap fun c => if c = '\n' then '\n' :: List.replicate column ' ' else [c]

def line (width : Nat) (row : Row) : Text :=
  "  " ++ row.term ++ List.replicate (width - row.width) ' ' ++ "  " ++
    indented (width + 4) row.about ++ "\n"

end Row

def listing (title : Text) (rows : List Row) : Text :=
  let width := (rows.map (·.width)).foldl max 0
  "\n" ++ heading title ++ "\n" ++ rows.flatMap (Row.line width)

def Verb.about : Verb → Text
  | parse => "Parse method signatures (reads stdin lines when none are given)"
  | split => "Split a string on a set of delimiter characters"
  | init => "Initialize a .methodsig.toml configuration file"
  | help => "Print this message or the help of the given subcommand(s)"

def Verb.row (v : Verb) : Row := ⟨bold v.name, v.name.length, v.about⟩

namespace Flag

def termEnd (f : Flag) : Text :=
  match f.valueName? with
  | some value => " <" ++ value ++ ">"
  | none => if f = .verbose then "..." else ""

def term (f : Flag) : Text :=
  (match f.shortName? with
    | some c => bold ['-', c] ++ ", "
    | none => "    ") ++
  bold ("--" ++ f.longName) ++ f.termEnd

/-- Room for the short name, and the rest of the term. -/
def termWidth (f : Flag) : Nat := 4 + 2 + f.longName.length + f.termEnd.length

def about (env : Environment) : Flag → Text
  | verbose => "Increase log verbosity (-v info, -vv debug, -vvv trace)"
  | color =>
      "When to use colored output [env: " ++ colorVariable ++ "=" ++
        Text.decodeLossy ((env.get? colorVariable).getD []) ++
        "] [default: auto] [possible values: auto, always, never]"
  | format =>
      "Output format (defaults to the configured format) [possible values: json, terminal]"
  | output => "Output file (defaults to stdout)"
  | delimiter => "Delimiter string; every character in it is a cut point. Repeatable"
  | force => "Overwrite an existing configuration file"
  | help => "Print help"
  | version => "Print version"

def row (env : Environment) (f : Flag) : Row := ⟨f.term, f.termWidth, f.about env⟩

end Flag

def flagListing (env : Environment) (s : Scope) : Text :=
  listing "Options" (s.flags.map (Flag.row env))

def opening (about command arguments : Text) : Text :=
  about ++ "\n\n" ++ heading "Usage" ++ " " ++ bold command ++ " " ++ arguments ++ "\n"

def Verb.opening (v : Verb) (arguments : Text) : Text :=
  CommandLine.opening v.about (programName ++ " " ++ v.name) arguments

def Scope.help (env : Environment) : Scope → Text
  | top =>
      opening "Java-like method signature parser" programName "[OPTIONS] <COMMAND>" ++
        listing "Commands" (Verb.all.map Verb.row) ++
        flagListing env .top
  | parse =>
      Verb.parse.opening "[OPTIONS] [SIGNATURES]..." ++
        listing "Arguments" [.plain "[SIGNATURES]..."
          "Signatures to parse, e.g. \"private void log(String value)\""] ++
        flagListing env .parse
  | split =>
      Verb.split.opening "[OPTIONS] <SOURCE>" ++
        listing "Arguments" [.plain "<SOURCE>" "String to split"] ++
        flagListing env .split
  | init => Verb.init.opening "[OPTIONS]" ++ flagListing env .init

def Topic.text (env : Environment) : Topic → Text
  | .scope s => s.help env
  | .help =>
      Verb.help.opening "[COMMAND]..." ++
        listing "Arguments" [.plain "[COMMAND]..." "Print help for the subcommand(s)"]

/-- Help keeps its styles only when the environment insists; output goes to no terminal. -/
def keepsStyles (env : Environment) : Bool :=
  !(env.get? "NO_COLOR").any (!·.isEmpty) && (env.get? "CLICOLOR_FORCE").any (!·.isEmpty)

def Topic.octets (env : Environment) (topic : Topic) : Bytes :=
  if keepsStyles env then Text.encode (topic.text env)
  else Color.Plain.ofStyled (Text.encode (topic.text env))

end MethodSignature.CommandLine
