import Tabletop.Formula.Fragments
import Tabletop.Text.Scan

/-!
The one comment of a roll: the markers of the stats used, the comment in the formula and the comment
of the user, each part once. The formula is left without its comment and its markers. A marker is
the name of a stat that a roll was computed with, written into its comment.
-/
namespace Tabletop

namespace StatMarker

def opening : Text := ['%', '%', '[', '_', '_']

def closing : Text := ['_', '_', ']', '%', '%']

def mark (name : Text) : Text := opening ++ name ++ closing

def nameRest : Text → Option (Text × Text)
  | [] => none
  | c :: cs =>
    match Text.after? closing (c :: cs) with
    | some rest => some ([], rest)
    | none => if c = '\n' then none else (nameRest cs).map fun (name, rest) => (c :: name, rest)

def reader : Reader Text := fun text => do
  match ← Text.after? opening text with
  | [] => none
  | c :: rest =>
    if c = '\n' then none else (nameRest rest).map fun (name, rest) => (c :: name, rest)

end StatMarker

namespace Comment

def plainText (comment : Text) : Text :=
  let bare : Text := (StatMarker.reader.erased comment : Text)
  (bare.trim.withoutLeading '#').trim.collapsed

def markersOf (comment : Text) : List Text := (StatMarker.reader.findings comment).map (·.2)

/-- The markers of all sources, each once, and then their texts, each once. -/
def gather (sources : List Text) : Text :=
  let markers := (sources.flatMap markersOf).eraseDups
  let texts := ((sources.map plainText).filter (!·.isEmpty)).eraseDups
  Text.joined [' '] (markers ++ texts)

end Comment

/-- A formula without its comment, the comment that goes with it, and whether it has several
fragments. -/
structure Merged where
  formula : Text
  comment : Option Text
  chained : Bool
  deriving DecidableEq

namespace Merged

def commentOf (chained : Bool) (sources : List Text) : Option Text :=
  let joined := Comment.gather sources
  if joined.isEmpty then none else some (if chained then '#' :: ' ' :: joined else joined)

def splitComment (fragments : List Text) : Text × Option Text :=
  let last := fragments.getLastD []
  match Text.cutAt? '#' last with
  | some (body, comment) => (Text.joined [';'] (fragments.dropLast ++ [body]), some comment)
  | none => (Text.joined [';'] fragments, none)

def ofFormula (formula : Text) (userComment : Option Text) : Merged :=
  let parts := fragments formula
  let chained := decide (1 < parts.length)
  let (body, comment) := splitComment parts
  let markers := Text.joined [' '] (Comment.markersOf body)
  let bare : Text := (StatMarker.reader.erased body : Text)
  ⟨bare.trim, commentOf chained [markers, comment.getD [], userComment.getD []], chained⟩

def withMarkers (names : List Text) (merged : Merged) : Merged :=
  let added := Text.joined [' '] (names.map StatMarker.mark)
  { merged with comment := commentOf merged.chained [added, merged.comment.getD []] }

def forRoll (merged : Merged) : Text :=
  match merged.comment with
  | none => []
  | some comment => if comment.head? = some '#' then comment else '#' :: ' ' :: comment

end Merged
end Tabletop
