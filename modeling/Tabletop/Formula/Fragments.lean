import Tabletop.Formula.DiceToken
import Tabletop.Formula.LeadingToken
import Tabletop.Text.Scan

/-!
Fragments of a formula, and spans in square brackets. Semicolons part a formula into fragments, but
once a fragment has a comment a semicolon only ends it when a roll follows. Joining the fragments
with semicolons gives the formula back.
-/
namespace Tabletop

def bracket : Reader Text := fun text => do
  let (_, rest) ← Reader.char '[' text
  let isInner (c : Char) := c ≠ '[' && c ≠ ']'
  let (_, after) ← Reader.char ']' (rest.dropWhile isInner)
  some (rest.takeWhile isInner, after)

/-- Whether the text behind a semicolon is a roll of its own: a single token with dice, a number or
the reference to an earlier total in it. -/
def startsRoll (piece : Text) : Bool :=
  let body := Text.trim (piece.takeWhile fun c => c ≠ '#' && c ≠ '[')
  match leadingToken? body with
  | some (_, none) => decide ('&' ∈ body) || hasDiceToken body
  | _ => false

/-- The fragments that start with a given one, the pieces behind its semicolon either added to it or
not. -/
def gatherFragments (current : Text) : List Text → List Text
  | [] => [current]
  | piece :: pieces =>
    if '#' ∈ current ∧ startsRoll piece = false then
      gatherFragments (current ++ ';' :: piece) pieces
    else current :: gatherFragments piece pieces

def fragments (formula : Text) : List Text :=
  match formula.splitOn ';' with
  | [] => []
  | piece :: pieces => gatherFragments piece pieces

def byteRanges (start : Nat) : List Text → List (Nat × Nat)
  | [] => []
  | text :: texts =>
    (start, start + text.byteLength) :: byteRanges (start + text.byteLength + 1) texts

def fragmentRanges (formula : Text) : List (Nat × Nat) := byteRanges 0 (fragments formula)

end Tabletop
