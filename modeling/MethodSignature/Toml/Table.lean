import MethodSignature.Toml.Syntax

/-!
The table that the statements of a TOML document build up. Every table remembers how it came to
be, since that decides what may still be added to it: a table has one header, a table made by
dotted keys grows only by dotted keys and by headers below it, and an inline table is closed.
-/

namespace MethodSignature.Toml

inductive Origin where
  /-- The document itself, a table with a header of its own, or a table of an array. -/
  | declared
  /-- A table on the way to the table of a header. -/
  | implied
  /-- A table on the way to the value of a dotted key. -/
  | dotted
  | inline
deriving DecidableEq

inductive Node where
  | scalar (s : Scalar)
  | array (items : List Node)
  | tables (items : List Node)
  | table (origin : Origin) (entries : List (Text × Node))

structure Table where
  origin : Origin
  entries : List (Text × Node)

namespace Table

def empty (origin : Origin) : Table := ⟨origin, []⟩

def toNode (t : Table) : Node := .table t.origin t.entries

def get? (t : Table) (key : Text) : Option Node := t.entries.lookup key

def set (t : Table) (key : Text) (value : Node) : Table :=
  if (t.get? key).isSome then
    ⟨t.origin, t.entries.map fun (k, v) => if k = key then (k, value) else (k, v)⟩
  else ⟨t.origin, t.entries ++ [(key, value)]⟩

/-- Changes the table at the end of a path of keys, making the tables that are missing. Of an
array of tables the last one is meant. With `dotted` the path comes from a dotted key, which
may not lead into a declared table. -/
def alter (dotted : Bool) (f : Table → Option Table) : List Text → Table → Option Table
  | [], t => f t
  | key :: rest, t =>
      match t.get? key with
      | none => do
          let child ← alter dotted f rest (empty (if dotted then .dotted else .implied))
          return t.set key child.toNode
      | some (.tables items) =>
          match items.reverse with
          | .table origin entries :: earlier => do
              let child ← alter dotted f rest ⟨origin, entries⟩
              return t.set key (.tables (child.toNode :: earlier).reverse)
          | _ => none
      | some (.table origin entries) =>
          if origin = .inline ∨ (dotted ∧ origin = .declared) then none
          else do
            let child ← alter dotted f rest ⟨origin, entries⟩
            return t.set key child.toNode
      | some _ => none

def add (key : Text) (value : Node) (t : Table) : Option Table :=
  if (t.get? key).isSome then none else some (t.set key value)

/-- Assigns a value to a dotted key. A dotted key adds only to tables made by dotted keys, and a
plain key never does. -/
def assign (path : KeyPath) (value : Node) (t : Table) : Option Table :=
  let isDotted := !path.parents.isEmpty
  t.alter isDotted (fun parent =>
    if (parent.origin == .dotted) != isDotted then none else parent.add path.key value)
    path.parents

/-- Declares a table by its header; only a table that was implied so far may be there. -/
def declare (path : KeyPath) (t : Table) : Option Table :=
  t.alter false (fun parent =>
    match parent.get? path.key with
    | none => some (parent.set path.key (empty .declared).toNode)
    | some (.table .implied entries) => some (parent.set path.key (.table .declared entries))
    | some _ => none) path.parents

def append (path : KeyPath) (t : Table) : Option Table :=
  t.alter false (fun parent =>
    match parent.get? path.key with
    | none => some (parent.set path.key (.tables [(empty .declared).toNode]))
    | some (.tables items) =>
        some (parent.set path.key (.tables (items ++ [(empty .declared).toNode])))
    | some _ => none) path.parents

end Table

mutual

def Node.ofExpr? : Expr → Option Node
  | .scalar s => some (.scalar s)
  | .array items => (Node.ofExprs? items).map .array
  | .inline fields => do
      let table ← Node.ofFields? fields (Table.empty .declared)
      return .table .inline table.entries

def Node.ofExprs? : List Expr → Option (List Node)
  | [] => some []
  | item :: items => do return (← Node.ofExpr? item) :: (← Node.ofExprs? items)

def Node.ofFields? : List (KeyPath × Expr) → Table → Option Table
  | [], t => some t
  | (path, value) :: fields, t => do
      let node ← Node.ofExpr? value
      Node.ofFields? fields (← t.assign path node)

end

structure Building where
  root : Table
  current : Option KeyPath

namespace Building

def alterCurrent (b : Building) (f : Table → Option Table) : Option Table :=
  match b.current with
  | none => f b.root
  | some path => b.root.alter false f (path.parents ++ [path.key])

def step (b : Building) : Statement → Option Building
  | .assign path value => do
      let node ← Node.ofExpr? value
      return ⟨← b.alterCurrent (·.assign path node), b.current⟩
  | .table path => do return ⟨← b.root.declare path, some path⟩
  | .tableOfArray path => do return ⟨← b.root.append path, some path⟩

end Building

def Table.ofStatements? (statements : List Statement) : Option Table := do
  let built ← statements.foldlM Building.step ⟨Table.empty .declared, none⟩
  return built.root

def parse? (s : Text) : Option Table := do
  Table.ofStatements? (← document? s)

end MethodSignature.Toml
