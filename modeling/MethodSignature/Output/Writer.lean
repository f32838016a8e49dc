import MethodSignature.Output.Document

/-!
Writing documents to a sink. A sink may have room for a limited number of octets: it stores what
fits, and a write that does not fit fails. A failed write ends its document; later steps of the
run are still tried.
-/

namespace MethodSignature

/-- Where output goes: what is stored, the most that can be stored, which flushes fail, and how
often one was asked for. -/
structure Sink where
  stored : Bytes := []
  limit : Option Nat := none
  flushFails : Nat → Bool := fun _ => false
  flushes : Nat := 0

namespace Sink

def fitting (sink : Sink) (b : Bytes) : Bytes :=
  match sink.limit with
  | none => b
  | some limit => b.take (limit - sink.stored.length)

/-- Stores what fits; the rest, when there is any, makes the write fail. -/
def write (sink : Sink) (b : Bytes) : Except StorageError Unit × Sink :=
  let kept := sink.fitting b
  let after := { sink with stored := sink.stored ++ kept }
  if kept.length = b.length then (.ok (), after) else (.error (.other "sink full"), after)

def writeAll (sink : Sink) : List Bytes → Except StorageError Unit × Sink
  | [] => (.ok (), sink)
  | chunk :: rest =>
      match sink.write chunk with
      | (.ok (), after) => after.writeAll rest
      | failed => failed

def flush (sink : Sink) : Except StorageError Unit × Sink :=
  let after := { sink with flushes := sink.flushes + 1 }
  if sink.flushFails sink.flushes then (.error (.other "flush failed"), after) else (.ok (), after)

end Sink

structure Writer where
  format : Format
  colored : Bool

namespace Writer

/-- A new writer; its formatter is the newest, so it paints whenever it is enabled. -/
def ofMode (format : Format) (mode : Color.Mode) : Writer := ⟨format, mode.enabled⟩

inductive Step where
  | write (document : Document)
  | flush

def step (w : Writer) (sink : Sink) : Step → Except StorageError Unit × Sink
  | .write document => sink.writeAll ((document.chunks w.format w.colored).map Text.encode)
  | .flush => sink.flush

def run (w : Writer) (sink : Sink) : List Step → List (Except StorageError Unit × Sink)
  | [] => []
  | s :: rest =>
      let after := w.step sink s
      after :: w.run after.2 rest

end Writer

end MethodSignature
