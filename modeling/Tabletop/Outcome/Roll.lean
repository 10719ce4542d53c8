import Tabletop.Comparator.Basic
import Tabletop.Comparator.Clause
import Tabletop.Expr.Diagnosis
import Tabletop.Expr.Total
import Tabletop.Formula.Fragments

/-!
Rolling a composed text. Its fragments are rolled in order from one source of faces; a later
fragment can use the total of the first one, and thresholds with dice are rolled too. The outcome
has a segment with its total for each fragment, and the comment that they share.
-/
namespace Tabletop

/-- One rolled fragment: what was rolled, how the total came about, and what it is tested
against. -/
structure Segment where
  entry : Text
  breakdown : Text
  total : Amount
  natural : List UInt8
  comparator : Option Comparator := none
  comment : Option Text := none
  deriving DecidableEq

def Segment.text (segment : Segment) : Text :=
  segment.entry ++ ':' :: ' ' :: segment.breakdown ++ ' ' :: '=' :: ' ' :: segment.total.text

structure Outcome where
  expression : Text
  segments : List Segment
  comment : Option Text
  deriving DecidableEq

namespace Outcome

def total? (outcome : Outcome) : Option Amount :=
  match outcome.segments with
  | [segment] => some segment.total
  | _ => none

def isChained (outcome : Outcome) : Bool := 1 < outcome.segments.length

end Outcome

inductive FormulaFault where
  | noEarlierRoll
  | nothingToRoll
  | incompleteComparison
  | syntaxError (cause : SyntaxError)

def FormulaFault.details : FormulaFault → Text
  | noEarlierRoll => '\x60' :: '&' :: '\x60' :: " can only refer to an earlier roll".toList
  | nothingToRoll => "nothing to roll"
  | incompleteComparison => "incomplete comparison"
  | syntaxError cause => cause.message

inductive OutcomeError where
  | malformed (formula : Text) (fault : FormulaFault)
  | roll (cause : RollError)
  | total (cause : TotalError)

def OutcomeError.message : OutcomeError → Text
  | malformed formula fault => "invalid dice \"" ++ formula ++ "\": " ++ fault.details
  | roll cause => cause.messageInExpr
  | total cause => cause.message

abbrev Engine (α : Type) := ExceptT OutcomeError (StateM Faces) α

namespace Engine

def evaluate (expr : DiceExpr) : Engine (RolledExpr × Amount) := do
  let rolled ← (expr.roll.adapt OutcomeError.roll : Engine RolledExpr)
  match rolled.total with
  | .ok amount => return (rolled, amount)
  | .error cause => throw (.total cause)

/-- The threshold that a sign and a text stand for, rolled when it has dice; a text that is no
expression stays unresolved. -/
def threshold (limit : Option Nat) (sign : Sign) (value : Text) : Engine Threshold := do
  match DiceExpr.parse? value with
  | none => return .unresolved sign value
  | some expr =>
    let (rolled, amount) ← evaluate expr
    let plain := Threshold.ofAmount sign amount
    return if expr.isFixed then plain else plain.rolledFrom value (rolled.text limit)

def comparator (limit : Option Nat) (raw : Text) : Engine Comparator := do
  match Clause.parse? raw with
  | none => throw (.malformed raw .incompleteComparison)
  | some clause =>
    let primary ← threshold limit clause.sign clause.value
    match clause.opposition with
    | none => return { primary }
    | some (sign, value) => return { primary, opposed := [← threshold limit sign value] }

/-- A fragment without its comment, and the comment: the first text in brackets, or else the text
behind the first number sign. -/
def splitComment (fragment : Text) : Text × Option Text :=
  match bracket.first? fragment with
  | some found =>
    (Text.trim (found.before ++ found.after), Text.unlessEmpty (Text.trim found.value))
  | none =>
    match Text.cutAt? '#' fragment with
    | some (body, comment) => (body.trim, Text.unlessEmpty comment.trim)
    | none => (fragment.trim, none)

def withFirstTotal (total : Amount) (fragment : Text) : Text :=
  fragment.flatMap fun c => if c = '&' then total.operand else [c]

def comparator? (limit : Option Nat) (raw : Text) : Engine (Option Comparator) :=
  if raw.isEmpty then return none else some <$> comparator limit raw

def rollBody (limit : Option Nat) (comment : Option Text) (body : Text) : Engine Segment :=
  let (entry, rawComparator) := Comparator.extract body
  let entry := entry.trim
  if entry.isEmpty then throw (.malformed body .nothingToRoll)
  else match DiceExpr.parse entry with
    | .error cause => throw (.malformed entry (.syntaxError cause))
    | .ok expr => do
      let (rolled, total) ← evaluate expr
      let comparator ← comparator? limit rawComparator
      return {
        entry, breakdown := rolled.text limit, total, natural := rolled.natural,
        comparator, comment }

def fragment (limit : Option Nat) (firstTotal : Option Amount) (text : Text) : Engine Segment :=
  let (body, comment) := splitComment text
  match firstTotal with
  | some total => rollBody limit comment (withFirstTotal total body)
  | none =>
    if '&' ∈ body then throw (.malformed body .noEarlierRoll) else rollBody limit comment body

/-- Rolls the fragments in order; `firstTotal` is the total of the first one once it is rolled. -/
def segments (limit : Option Nat) : Option Amount → List Text → Engine (List Segment)
  | _, [] => return []
  | firstTotal, text :: texts => do
    let segment ← fragment limit firstTotal text
    let others ← segments limit (firstTotal <|> some segment.total) texts
    return segment :: others

def splitGlobalComment (expression : Text) : List Text × Option Text :=
  let parts := fragments expression
  match Text.cutAt? '#' (parts.getLastD []) with
  | some (body, comment) => (parts.dropLast ++ [body], Text.unlessEmpty comment.trim)
  | none => (parts, none)

def roll (limit : Option Nat) (text : Text) : Engine Outcome := do
  let expression := text.trim
  let (parts, comment) := splitGlobalComment expression
  let segments ← segments limit none (parts.filter fun part => !part.allBlank)
  if segments.isEmpty then throw (.malformed expression .nothingToRoll)
  return ⟨expression, segments, comment⟩

end Engine
end Tabletop
