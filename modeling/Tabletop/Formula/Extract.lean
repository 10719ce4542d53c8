import Tabletop.Formula.Fragments

/-!
What a line of chat holds: a chain of rolls, a roll in brackets, a roll at the start, or prose. The
text around a roll is its comment, and no character but blanks is lost.
-/
namespace Tabletop

inductive Shape where
  | chained
  | bracketed
  | plain
  | prose
  deriving DecidableEq

structure Extracted where
  shape : Shape
  formula : Text
  comment : Option Text
  blocks : List CriticalBlock
  hasDice : Bool
  deriving DecidableEq

namespace Extracted

def isValid (extracted : Extracted) : Bool := extracted.shape ≠ .prose

def bracketRoll (extracted : Extracted) : Option Text :=
  if extracted.shape = .bracketed then some extracted.formula else none

end Extracted

/-- The first span in brackets that holds dice, with the text before and after it. -/
def bracketRoll? : Text → Option (Text × Text × Text)
  | [] => none
  | c :: cs =>
    let later := (bracketRoll? cs).map fun (before, inner, after) => (c :: before, inner, after)
    match bracket (c :: cs) with
    | some (inner, after) => if hasDiceToken inner then some ([], inner, after) else later
    | none => later

def extract (line : Text) : Extracted :=
  let line := line.trim
  let blocks := CriticalBlock.findAll line
  if '&' ∈ line ∧ ';' ∈ line then ⟨.chained, line, none, blocks, hasDiceToken line⟩
  else
    match bracketRoll? line with
    | some (before, inner, after) =>
      ⟨.bracketed, inner.trim, Text.unlessEmpty (Text.trim (before ++ ' ' :: after)).collapsed,
        blocks, true⟩
    | none =>
      let (formula, comment) := (leadingToken? line).getD (line, none)
      let hasDice := hasDiceToken formula
      ⟨if formula.isEmpty || (comment.isSome && !hasDice) then .prose else .plain,
        formula, comment, blocks, hasDice⟩

end Tabletop
