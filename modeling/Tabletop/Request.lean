import Tabletop.Comment.Merge
import Tabletop.Formula.Compose
import Tabletop.Formula.Extract
import Tabletop.Outcome.Render
import Tabletop.Outcome.Roll

/-!
From a line of chat to the text that players see. What can be rolled is found in the line, its
comments are merged, the roll is composed and rolled, and the segments are classified and rendered.
-/
namespace Tabletop

/-- What stays the same between rolls. -/
structure Settings where
  language : Language := .english
  thresholds : CriticalThresholds := {}
  rules : List CriticalRule := []
  similarity : Score := Score.half
  listLimit : Option Nat := none

/-- What belongs to a single roll. -/
structure Request where
  line : Text
  sheet : StatSheet := .empty
  threshold : Option Text := none
  statTotal : Option Text := none
  suffix : Text := []
  comment : Option Text := none
  skill : Bool := false

structure Response where
  roll : Text
  outcome : Outcome
  classifications : List (Option Classification)
  text : Text

inductive RequestError where
  | notARoll (line : Text)
  | outcome (cause : OutcomeError)

def RequestError.message : RequestError → Text
  | notARoll line => "no dice to roll in \"" ++ line ++ ['"']
  | outcome cause => cause.message

namespace Request

def formula? (extracted : Extracted) : Option Text :=
  match extracted.shape with
  | .prose => none
  | .chained => some extracted.formula
  | .bracketed | .plain =>
    match extracted.comment with
    | some comment => some (extracted.formula ++ " # " ++ (comment.withoutLeading '#').trimStart)
    | none => some extracted.formula

def merged (settings : Settings) (request : Request) (formula : Text) : Merged :=
  let merged := Merged.ofFormula formula request.comment
  let resolver : Resolver := { sheet := request.sheet, similarity := settings.similarity }
  merged.withMarkers (resolver.resolve merged.formula).matched

/-- The text that is rolled. Overrides and suffixes belong to single rolls only. -/
def rollText (settings : Settings) (request : Request) (merged : Merged) : Text :=
  let resolver : Resolver := { sheet := request.sheet, similarity := settings.similarity }
  if merged.chained then composeChain resolver request.statTotal merged.forRoll merged.formula
  else
    (compose resolver .arithmetic
      { threshold := request.threshold, statTotal := request.statTotal, suffix := request.suffix,
        comment := merged.forRoll } merged.formula).roll

def context (settings : Settings) (request : Request) : Context :=
  { sheet := request.sheet, skill := request.skill, similarity := settings.similarity }

def respond (settings : Settings) (request : Request) (blocks : List CriticalBlock)
    (merged : Merged) (roll : Text) (outcome : Outcome) : Response :=
  let context := request.context settings
  let thresholds := context.applyBlocks blocks settings.thresholds
  let classifications := outcome.segments.map fun segment =>
    context.classify thresholds settings.rules segment
  { roll, outcome, classifications
    text := outcome.render settings.language classifications merged.comment }

def process (settings : Settings) (request : Request) :
    ExceptT RequestError (StateM Faces) Response := do
  let extracted := extract request.line
  match formula? extracted with
  | none => throw (.notARoll request.line)
  | some formula =>
    let merged := request.merged settings formula
    let roll := request.rollText settings merged
    let outcome ← (Engine.roll settings.listLimit roll).adapt RequestError.outcome
    return request.respond settings extracted.blocks merged roll outcome

end Request
end Tabletop
