import MethodSignature.Split
import MethodSignature.Text.Utf8

/-!
Paths are octets with slashes between names. A path is rooted when it starts with a slash.
Repeated and trailing slashes are no names, and neither is a `.`, unless it stands first in a
path that is not rooted. Going to the parent cuts the text and leaves the rest as it is written.
-/

namespace MethodSignature

structure Path where
  octets : Bytes
deriving DecidableEq

namespace Path

def slash : UInt8 := 0x2F

def dot : Bytes := [0x2E]

def dotDot : Bytes := [0x2E, 0x2E]

def ofText (s : Text) : Path := ⟨s.encode⟩

def display (p : Path) : Text := Text.decodeLossy p.octets

def isRooted (p : Path) : Bool := p.octets.head? == some slash

/-- The text between slashes, empty and `.` segments included. -/
def segments (octets : Bytes) : List Bytes := Split.pieces (· == slash) octets

def startsWithDot (p : Path) : Bool := (segments p.octets).head? == some dot

/-- The slash of a rooted path or the `.` in front of another. -/
def start (p : Path) : Bytes :=
  if p.isRooted || p.startsWithDot then p.octets.take 1 else []

def body (p : Path) : Bytes := p.octets.drop p.start.length

def isName (segment : Bytes) : Bool := segment != [] && segment != dot

def names (p : Path) : List Bytes :=
  (if p.startsWithDot then [dot] else []) ++ (segments p.body).filter isName

/-- Removes what follows the last name. -/
def trimEnd (segments : List Bytes) : List Bytes :=
  (segments.reverse.dropWhile (!isName ·)).reverse

def joinSegments (segments : List Bytes) : Bytes := List.intercalate [slash] segments

def parent? (p : Path) : Option Path :=
  match trimEnd (segments p.body) with
  | [] => if p.startsWithDot then some ⟨[]⟩ else none
  | named => some ⟨p.start ++ joinSegments (trimEnd named.dropLast)⟩

def ancestors (p : Path) : Nat → List Path
  | 0 => []
  | n + 1 =>
      p :: match p.parent? with
        | some q => q.ancestors n
        | none => []

def join (p : Path) (name : Bytes) : Path :=
  if p.octets = [] ∨ p.octets.getLast? = some slash then ⟨p.octets ++ name⟩
  else ⟨p.octets ++ slash :: name⟩

end Path

end MethodSignature
