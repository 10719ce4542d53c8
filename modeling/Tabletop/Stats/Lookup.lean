import Tabletop.Stats.Sheet
import Tabletop.Stats.Similarity
import Tabletop.Text.Accent
import Tabletop.Text.Blank
import Tabletop.Text.LetterCase

/-!
Looking up a stat by a term, in three tiers: the same name, a name that contains the term, a name
that is alike enough. In each tier the first of the best stats wins. Names are compared without
blanks at the ends, without accents and in lower case.
-/
namespace Tabletop

def Text.normalized (name : Text) : Text := name.trim.unaccented.lowercase

inductive Tier where
  | exact | partialName | similar
  deriving DecidableEq

structure Found where
  name : Text
  value : Amount
  tier : Tier
  deriving DecidableEq

/-- The first entry with the best rank, among those that have one. -/
def firstBest? (better : Rank → Rank → Bool) (rank : Entry → Option Rank) (entries : List Entry) :
    Option Entry :=
  let step (best : Option (Rank × Entry)) (entry : Entry) : Option (Rank × Entry) :=
    match rank entry, best with
    | none, best => best
    | some r, none => some (r, entry)
    | some r, some (best, chosen) => if better r best then some (r, entry) else some (best, chosen)
  (entries.foldl step none).map (·.2)

namespace StatSheet

def named? (sheet : StatSheet) (term : Text) : Option Found :=
  (sheet.entries.find? fun (name, _) => name.normalized = term).map fun (name, value) =>
    ⟨name, value, .exact⟩

def containing? (sheet : StatSheet) (term : Text) : Option Found :=
  let rank : Text × Amount → Option Nat := fun (name, _) =>
    if name.normalized.includes term then some name.normalized.length else none
  (firstBest? (fun length best => length < best) rank sheet.entries).map fun (name, value) =>
    ⟨name, value, .partialName⟩

def alike? (sheet : StatSheet) (term : Text) (least : Score) : Option Found :=
  let rank : Text × Amount → Option Score := fun (name, _) =>
    let score := Text.similarity name.normalized term
    if score < least then none else some score
  (firstBest? (fun score best => best < score) rank sheet.entries).map fun (name, value) =>
    ⟨name, value, .similar⟩

def find? (sheet : StatSheet) (term : Text) (least : Score) : Option Found :=
  let term := term.normalized
  if term.isEmpty then none
  else sheet.named? term <|> sheet.containing? term <|> sheet.alike? term least

end StatSheet
end Tabletop
