import Tabletop.Comment.Merge
import Tabletop.Language
import Tabletop.Outcome.Classify

/-!
The text that players see: the comment, the stats that went into the roll, and one line for each
segment.
-/
namespace Tabletop

def Label.phrase? : Label → Option Phrase
  | success => some .success
  | failure => some .failure
  | criticalSuccess => some .criticalSuccess
  | criticalFailure => some .criticalFailure
  | custom _ => none

/-- The words of a label. A name that spells a phrase in any language is said in the given one. -/
def Label.text (language : Language) (label : Label) : Text :=
  match label with
  | custom name =>
    match Language.phraseOf? name with
    | some phrase => language.say phrase []
    | none => name
  | _ => (label.phrase?.map fun phrase => language.say phrase []).getD []

def bold (text : Text) : Text := '*' :: '*' :: text ++ ['*', '*']

def code (text : Text) : Text := '\x60' :: text ++ ['\x60']

def italic (text : Text) : Text := '*' :: text ++ ['*']

namespace ShownComparison

def text (shown : ShownComparison) : Text := ' ' :: shown.sign ++ ' ' :: '[' :: shown.value ++ [']']

end ShownComparison

namespace Segment

def breakdownText (segment : Segment) : Text :=
  code segment.entry ++ " ⟶ " ++ segment.breakdown ++ " = " ++ code segment.total.text

def thresholdText (segment : Segment) : Text :=
  match segment.comparator with
  | some comparator =>
    match comparator.primary.diceText, comparator.primary.rolledText with
    | some dice, some rolled => " (" ++ dice ++ " ⟶ " ++ rolled ++ [')']
    | _, _ => []
  | none => []

def resultText (language : Language) (classification : Option Classification) (segment : Segment) :
    Text :=
  match classification with
  | none => segment.breakdownText
  | some result =>
    bold (result.label.text language) ++ " — " ++ segment.breakdownText ++ result.shown.text ++
      segment.thresholdText ++
      match result.opposition with
      | some opposition => " ⚔ " ++ bold (opposition.label.text language) ++ opposition.shown.text
      | none => []

def render (language : Language) (classification : Option Classification) (segment : Segment) :
    Text :=
  segment.resultText language classification ++
    match segment.comment with
    | some comment => if comment.isEmpty then [] else " — " ++ italic comment
    | none => []

end Segment

namespace Outcome

def commentLines (language : Language) (comment : Text) : List Text :=
  let text := Comment.plainText comment
  let stats := (StatMarker.reader.findings comment).map (·.1)
  (if text.isEmpty then [] else [italic text]) ++
    if stats.isEmpty then []
    else ['_' :: language.say .computedWith [("stats", Text.joined [',', ' '] stats)] ++ ['_']]

def segmentLines (language : Language) (before : Text) :
    List Segment → List (Option Classification) → List Text
  | [], _ => []
  | segment :: segments, classifications =>
    (before ++ segment.render language classifications.head?.join) ::
      segmentLines language before segments classifications.tail

def render (language : Language) (classifications : List (Option Classification))
    (comment : Option Text) (outcome : Outcome) : Text :=
  let comments := match comment <|> outcome.comment with
    | some comment => commentLines language comment
    | none => []
  let before : Text := if outcome.isChained then "◈ ".toList else []
  Text.joined ['\n'] (comments ++ segmentLines language before outcome.segments classifications)

end Outcome
end Tabletop
