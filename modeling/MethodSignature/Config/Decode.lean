import MethodSignature.Config.Basic
import MethodSignature.Toml.Table

/-!
Reading a configuration out of a TOML document. Keys that are not known are passed over, but
their values must be representable. A section may also be written as the array of its values in
order, and a date-time counts as a section without values.
-/

namespace MethodSignature.Config

open Toml

def integerFits (n : Int) : Bool := -(Nat.pow 2 127 : Nat) ≤ n && n < (Nat.pow 2 128 : Nat)

mutual

def isRepresentable : Node → Bool
  | .scalar (.integer n) => n.any integerFits
  | .scalar (.float d) => !d.overflows
  | .scalar _ => true
  | .array items => areRepresentable items
  | .tables items => areRepresentable items
  | .table _ entries => entriesRepresentable entries

def areRepresentable : List Node → Bool
  | [] => true
  | item :: items => isRepresentable item && areRepresentable items

def entriesRepresentable : List (Text × Node) → Bool
  | [] => true
  | (_, value) :: entries => isRepresentable value && entriesRepresentable entries

end

def othersRepresentable (known : List Text) (entries : List (Text × Node)) : Bool :=
  entriesRepresentable (entries.filter (!known.contains ·.1))

def isEmptyNode : Node → Bool
  | .array [] => true
  | .table _ [] => true
  | _ => false

/-- A format is named by a string, or by the one key of a table with nothing under it. -/
def format? : Node → Option Format
  | .scalar (.string s) => Format.ofName? s
  | .table _ [(key, value)] => if isEmptyNode value then Format.ofName? key else none
  | _ => none

def bool? : Node → Option Bool
  | .scalar (.bool b) => some b
  | _ => none

def text? : Node → Option Text
  | .scalar (.string s) => some s
  | _ => none

def texts? : Node → Option (List Text)
  | .array items => items.mapM text?
  | .tables items => items.mapM text?
  | _ => none

def entry? {α : Type} (read : Node → Option α) (key : Text) (entries : List (Text × Node)) :
    Option (Option α) :=
  match entries.lookup key with
  | none => some none
  | some value => (read value).map some

def outputOfEntries? (entries : List (Text × Node)) : Option OutputSection := do
  let format ← entry? format? "default_format" entries
  let color ← entry? bool? "use_color" entries
  if othersRepresentable ["default_format", "use_color"] entries then
    some ⟨format, color⟩
  else none

/-- Reads the output section from an array; items after the known ones are not looked at. -/
def outputOfItems? : List Node → Option OutputSection
  | [] => none
  | [format] => do return ⟨some (← format? format), none⟩
  | format :: color :: _ => do return ⟨some (← format? format), some (← bool? color)⟩

def output? : Node → Option OutputSection
  | .table _ entries => outputOfEntries? entries
  | .array items => outputOfItems? items
  | .tables items => outputOfItems? items
  | .scalar (.dateTime _) => some {}
  | .scalar _ => none

def splitOfEntries? (entries : List (Text × Node)) : Option SplitSection := do
  let delimiters ← entry? texts? "delimiters" entries
  if othersRepresentable ["delimiters"] entries then
    some (match delimiters with
      | some ds => ⟨ds⟩
      | none => {})
  else none

def splitOfItems? : List Node → Option SplitSection
  | [] => some {}
  | delimiters :: _ => do return ⟨← texts? delimiters⟩

def split? : Node → Option SplitSection
  | .table _ entries => splitOfEntries? entries
  | .array items => splitOfItems? items
  | .tables items => splitOfItems? items
  | .scalar (.dateTime _) => some {}
  | .scalar _ => none

def ofTable? (t : Table) : Option Config := do
  let output ← entry? output? "output" t.entries
  let split ← entry? split? "split" t.entries
  if othersRepresentable ["output", "split"] t.entries then some ⟨output, split⟩ else none

def decode? (s : Text) : Option Config := do
  ofTable? (← Toml.parse? s)

def splitsNowhere (c : Config) : Bool :=
  match c.split with
  | some split => split.delimiters.all List.isEmpty
  | none => false

def parse (s : Text) : Except Error Config :=
  match decode? s with
  | none => .error .toml
  | some c =>
      if c.splitsNowhere then
        .error (.configuration "split.delimiters must contain at least one character")
      else .ok c

end MethodSignature.Config
