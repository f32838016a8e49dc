import MethodSignature.Text.Basic

/-!
Reading octets that need not be UTF-8. Every longest start of a character that breaks off, and
every octet that starts none, counts as one unreadable piece.
-/

namespace MethodSignature.Text

/-- Octets that may follow the lead octet of a character directly: the narrower ranges keep out
overlong forms, surrogates and numbers above the last character. -/
def secondRange (lead : UInt8) : UInt8 × UInt8 :=
  if lead = 0xE0 then (0xA0, 0xBF)
  else if lead = 0xED then (0x80, 0x9F)
  else if lead = 0xF0 then (0x90, 0xBF)
  else if lead = 0xF4 then (0x80, 0x8F)
  else (0x80, 0xBF)

def continuationCount (lead : UInt8) : Nat :=
  if 0xC2 ≤ lead ∧ lead ≤ 0xDF then 1
  else if 0xE0 ≤ lead ∧ lead ≤ 0xEF then 2
  else if 0xF0 ≤ lead ∧ lead ≤ 0xF4 then 3
  else 0

def continuation (lead : UInt8) (rest : Bytes) : Bytes :=
  let within := (rest.take (continuationCount lead)).zipIdx.takeWhile fun (b, i) =>
    let range := if i = 0 then secondRange lead else (0x80, 0xBF)
    range.1 ≤ b && b ≤ range.2
  within.map Prod.fst

def codePoint (lead : UInt8) (followers : Bytes) : Nat :=
  let high := lead.toNat % Nat.pow 2 (6 - followers.length)
  followers.foldl (fun acc b => acc * 64 + b.toNat % 64) high

/-- The first character, or `none` for an unreadable piece, and the number of octets after the
first that belong to it. -/
def scanChar (lead : UInt8) (rest : Bytes) : Option Char × Nat :=
  if lead < 0x80 then (some (Char.ofNat lead.toNat), 0)
  else
    let followers := continuation lead rest
    if followers ≠ [] ∧ followers.length = continuationCount lead then
      (some (Char.ofNat (codePoint lead followers)), followers.length)
    else (none, followers.length)

def scan (b : Bytes) : List (Option Char) :=
  go 0 b
where
  go : Nat → Bytes → List (Option Char)
    | _, [] => []
    | k + 1, _ :: rest => go k rest
    | 0, lead :: rest =>
        let (c, used) := scanChar lead rest
        c :: go used rest

def decodeLossy (b : Bytes) : Text :=
  (scan b).map (·.getD '\uFFFD')

end MethodSignature.Text
