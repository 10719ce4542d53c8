import Tabletop.Arithmetic
import Tabletop.Critical.Check
import Tabletop.Outcome.Roll
import Tabletop.Stats.Resolve

/-!
Classifying segments: passed or failed against the comparator, unless a critical threshold or a
named rule gives another label. A critical failure comes before a critical success, and the rules
come last, in order.
-/
namespace Tabletop

inductive Label where
  | success | failure | criticalSuccess | criticalFailure
  | custom (name : Text)
  deriving DecidableEq

def Label.ofPassed (passed : Bool) : Label := if passed then success else failure

structure ShownComparison where
  sign : Text
  value : Text
  deriving DecidableEq

def ShownComparison.of (sign : Sign) (passed : Bool) (value : Amount) : ShownComparison :=
  ⟨sign.shown passed, value.text⟩

/-- The result of a test against a threshold that opposes. -/
structure Opposition where
  label : Label
  shown : ShownComparison
  passed : Bool
  deriving DecidableEq

structure Classification where
  label : Label
  shown : ShownComparison
  passed : Bool
  opposition : Option Opposition
  deriving DecidableEq

/-- How the values of rules and blocks are found, and whether the roll is one of a skill. -/
structure Context where
  sheet : StatSheet
  evaluator : Evaluator := .arithmetic
  skill : Bool := false
  similarity : Score := Score.half

namespace Context

def evaluate (context : Context) (value : Text) : Option Amount :=
  let resolver : Resolver := { sheet := context.sheet, similarity := context.similarity }
  context.evaluator (resolver.resolve value).formula

def applyBlocks (context : Context) (blocks : List CriticalBlock)
    (thresholds : CriticalThresholds) : CriticalThresholds :=
  blocks.foldl (fun thresholds block =>
    match context.evaluate block.value with
    | some value => thresholds.set block.kind ⟨block.sign, value, block.onNaturalDie⟩
    | none => thresholds) thresholds

def allows (context : Context) (rule : CriticalRule) : Bool := !context.skill || rule.affectsSkill

def ruleValue? (context : Context) (segment : Segment) (rule : CriticalRule) : Option Amount := do
  let value ← context.evaluate rule.value
  if (CriticalCheck.mk rule.sign value rule.onNaturalDie).holds segment.natural segment.total then
    some value
  else none

def firstRule? (context : Context) (segment : Segment) (rules : List CriticalRule) :
    Option (CriticalRule × Amount) :=
  rules.findSome? fun rule =>
    if context.allows rule then (context.ruleValue? segment rule).map (rule, ·) else none

def labelled (context : Context) (thresholds : CriticalThresholds) (rules : List CriticalRule)
    (segment : Segment) (passed : Bool) (plain : ShownComparison) : Label × ShownComparison :=
  let meets (check : Option CriticalCheck) : Bool :=
    check.any fun check => check.holds segment.natural segment.total
  if meets thresholds.failure then (.criticalFailure, plain)
  else if meets thresholds.success then (.criticalSuccess, plain)
  else match context.firstRule? segment rules with
    | some (rule, value) => (.custom rule.name, .of rule.sign true value)
    | none => (.ofPassed passed, plain)

end Context

def Threshold.oppose? (threshold : Threshold) (total : Amount) : Option Opposition := do
  let value ← threshold.value
  let passed := threshold.sign.holds total.value value.value
  some ⟨.ofPassed passed, .of threshold.sign passed value, passed⟩

/-- The classification of a segment; without a comparator that has a number there is none. -/
def Context.classify (context : Context) (thresholds : CriticalThresholds)
    (rules : List CriticalRule) (segment : Segment) : Option Classification := do
  let comparator ← segment.comparator
  let value ← comparator.primary.value
  let sign := comparator.primary.sign
  let passed := sign.holds segment.total.value value.value
  let (label, shown) := context.labelled thresholds rules segment passed (.of sign passed value)
  some ⟨label, shown, passed,
    comparator.opposed.head?.bind fun opposing => opposing.oppose? segment.total⟩

end Tabletop
