import Tabletop.Arithmetic
import Tabletop.Comparator.Clause
import Tabletop.Formula.Fragments
import Tabletop.Stats.Resolve

/-!
Composing the text that is rolled from a formula: critical blocks left out, the threshold
overridden, stats resolved, a threshold without dice evaluated, and suffix and comment added.
-/
namespace Tabletop

structure Composed where
  body : Text
  rawComparator : Text
  comparator : Text
  roll : Text
  deriving DecidableEq

/-- What belongs to one composition beside the formula. -/
structure Additions where
  threshold : Option Text := none
  statTotal : Option Text := none
  suffix : Text := []
  comment : Text := []

/-- The text of a threshold, evaluated when it holds no dice and has a value. -/
def evaluateThreshold (evaluator : Evaluator) (value : Text) : Text :=
  if holdsDiceTerm value then value
  else match evaluator value with
    | some amount => amount.text
    | none => value

def evaluateComparator (evaluator : Evaluator) (comparator : Text) : Text :=
  match Clause.parse? comparator with
  | none => comparator.trim
  | some clause =>
    clause.sign.symbol ++ evaluateThreshold evaluator clause.value ++
      match clause.opposition with
      | some (sign, value) => sign.symbol ++ evaluateThreshold evaluator value
      | none => []

def resolvePart (resolver : Resolver) (statTotal : Option Text) (part : Text) : Text :=
  let filled := match statTotal with
    | some total => fillPlaceholder total part
    | none => part
  (resolver.resolve filled).formula

def compose (resolver : Resolver) (evaluator : Evaluator) (additions : Additions) (formula : Text) :
    Composed :=
  let bare := CriticalBlock.strip formula
  let (body, rawComparator) := Comparator.extract (Comparator.overridden additions.threshold bare)
  let body := (resolvePart resolver additions.statTotal body).trim
  let comparator :=
    if rawComparator.isEmpty then []
    else evaluateComparator evaluator (resolvePart resolver additions.statTotal rawComparator)
  { body, rawComparator, comparator
    roll := Text.trimEnd (body ++ additions.suffix ++ comparator ++ ' ' :: additions.comment) }

def composeChain (resolver : Resolver) (statTotal : Option Text) (comment formula : Text) : Text :=
  let rolls := (fragments formula).map fun fragment =>
    (compose resolver .arithmetic { statTotal } fragment).roll
  Text.trimEnd (Text.joined [';'] rolls ++ ' ' :: comment)

end Tabletop
