import MethodSignature.Text.Basic

/-!
Splitting text at a set of characters. Every character of every delimiter is a cut point, and
the pieces that remain are the maximal runs between cut points; no empty piece is kept.
-/

namespace MethodSignature

namespace Split

/-- The pieces between cut points, empty ones included: one more than there are cut points. -/
def pieces {α : Type} (isCut : α → Bool) : List α → List (List α)
  | [] => [[]]
  | c :: s =>
      if isCut c then [] :: pieces isCut s
      else (pieces isCut s).modifyHead (c :: ·)

theorem pieces_ne_nil {α : Type} (isCut : α → Bool) (s : List α) : pieces isCut s ≠ [] := by
  cases s with
  | nil => simp [pieces]
  | cons c s =>
      simp only [pieces]
      split
      · simp
      · simpa using pieces_ne_nil isCut s

def runs (isCut : Char → Bool) (s : Text) : List Text :=
  (pieces isCut s).filter (!·.isEmpty)

def isDelimiter (delimiters : List Text) (c : Char) : Bool :=
  delimiters.any (·.contains c)

end Split

def splitBy (delimiters : List Text) (source : Text) : List Text :=
  Split.runs (Split.isDelimiter delimiters) source

end MethodSignature
