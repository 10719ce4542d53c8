import Tabletop.Dice.Die
import Tabletop.Dice.Faces

/-!
Rolling dice. Rolls take their faces from a source one after the other; a modifier works in passes,
each of which looks at all dice kept so far. A roll that could never end is refused before it
starts, and one that is broken off for want of faces leaves the dice as they lie.
-/
namespace Tabletop

inductive RollError where
  | endless (dice : Dice)
  | unfinished

def RollError.message : RollError → Text
  | endless dice => dice.text ++ " would result in infinite rolls"
  | unfinished => "iterator is finished"

/-- The dice on the table after a modifier, the source that it left, and what broke it off, if
anything. -/
structure Table where
  rolls : List Die
  faces : Faces
  error : Option RollError := none

def Condition.concerns (condition : Condition) (die : Die) : Bool :=
  die.isKept && condition.meets die.value

def Die.added (cause : Modifier) (face : UInt8) : Die := Die.add cause { value := face }

def dropMeeting (cause : Modifier) (condition : Condition) : Nat → List Die → List Die
  | 0, rolls => rolls
  | _ + 1, [] => []
  | count + 1, die :: rolls =>
    if condition.concerns die then die.drop cause :: dropMeeting cause condition count rolls
    else die :: dropMeeting cause condition (count + 1) rolls

def rerollPasses (cause : Modifier) (condition : Condition) (sides : UInt8) (recurse : Bool) :
    Nat → List Die → Faces → Table
  | 0, rolls, faces => ⟨rolls, faces, some .unfinished⟩
  | passes + 1, rolls, faces =>
    let count := rolls.countP condition.concerns
    let (drawn, rest) := faces.draw sides count
    if drawn.length < count then
      -- The die to roll again is dropped before its face is asked for.
      ⟨dropMeeting cause condition (drawn.length + 1) rolls, rest, some .unfinished⟩
    else
      let rerolled := dropMeeting cause condition count rolls ++ drawn.map (Die.added cause)
      if recurse && 0 < count then rerollPasses cause condition sides recurse passes rerolled rest
      else ⟨rerolled, rest, none⟩

/-- At most `passes` waves of added dice, the first of them for `count` dice that meet the
condition. -/
def explosionWaves (cause : Modifier) (condition : Condition) (sides : UInt8) (recurse : Bool) :
    Nat → Nat → List Die → Faces → Table
  | 0, _, rolls, faces => ⟨rolls, faces, some .unfinished⟩
  | passes + 1, count, rolls, faces =>
    let (drawn, rest) := faces.draw sides count
    if drawn.length < count then ⟨rolls, rest, some .unfinished⟩
    else
      let wave := drawn.map (Die.added cause)
      if recurse && 0 < count then
        explosionWaves cause condition sides recurse passes (wave.countP condition.concerns)
          (rolls ++ wave) rest
      else ⟨rolls ++ wave, rest, none⟩

/-- The kept dice with their positions, from the lowest value to the highest, earlier dice first
among equals. -/
def ranking (rolls : List Die) : List (Die × Nat) :=
  (rolls.zipIdx.filter fun (die, _) => die.isKept).mergeSort fun a b => a.1.value ≤ b.1.value

def dropRanked (cause : Modifier) (ranked : List (Die × Nat)) (rolls : List Die) : List Die :=
  let positions := ranked.map (·.2)
  rolls.mapIdx fun position die => if positions.contains position then die.drop cause else die

def clampKept (cause : Modifier) (clamp : UInt8 → Option UInt8) (rolls : List Die) : List Die :=
  rolls.map fun die =>
    if die.isKept then
      match clamp die.value with
      | some value => die.change cause value
      | none => die
    else die

def Modifier.applyWithin (passes : Nat) (modifier : Modifier) (dice : Dice) (rolls : List Die)
    (faces : Faces) : Table :=
  match modifier with
  | .reroll condition recurse =>
    if recurse && condition.coversEveryFace dice.sides then ⟨rolls, faces, some (.endless dice)⟩
    else rerollPasses modifier condition dice.sides recurse passes rolls faces
  | .explode condition recurse =>
    let condition := condition.getD (.atLeast dice.sides)
    if recurse && condition.coversEveryFace dice.sides then ⟨rolls, faces, some (.endless dice)⟩
    else
      explosionWaves modifier condition dice.sides recurse passes
        (rolls.countP condition.concerns) rolls faces
  | .keepHigh count =>
    ⟨dropRanked modifier ((ranking rolls).reverse.drop count.toNat) rolls, faces, none⟩
  | .keepLow count => ⟨dropRanked modifier ((ranking rolls).drop count.toNat) rolls, faces, none⟩
  | .minimum least =>
    ⟨clampKept modifier (fun value => if value.toNat < least.toNat then some least else none) rolls,
      faces, none⟩
  | .maximum greatest =>
    ⟨clampKept modifier (fun value => if greatest.toNat < value.toNat then some greatest else none)
      rolls, faces, none⟩

def Modifier.applyTo (modifier : Modifier) (dice : Dice) (rolls : List Die) (faces : Faces) :
    Table :=
  modifier.applyWithin faces.patience dice rolls faces

def applyAll (dice : Dice) : List Modifier → List Die → Faces → Table
  | [], rolls, faces => ⟨rolls, faces, none⟩
  | modifier :: others, rolls, faces =>
    let table := modifier.applyTo dice rolls faces
    match table.error with
    | some _ => table
    | none => applyAll dice others table.rolls table.faces

/-- Work that takes faces from a source and may fail; the faces taken before a failure are gone. -/
abbrev Rolling (α : Type) := ExceptT RollError (StateM Faces) α

namespace Dice

def rollWith (dice : Dice) (modifiers : List Modifier) : Rolling Rolled := fun faces =>
  let (drawn, rest) := faces.draw dice.sides dice.count.toNat
  if drawn.length < dice.count.toNat then (.error .unfinished, rest)
  else
    let table := applyAll dice modifiers (Rolled.ofFaces dice drawn).rolls rest
    match table.error with
    | some cause => (.error cause, table.faces)
    | none => (.ok ⟨dice, table.rolls⟩, table.faces)

def rollPlain (dice : Dice) : Rolling Rolled := dice.rollWith []

def roll (dice : Dice) : Rolling Rolled := dice.rollWith dice.modifiers

end Dice
end Tabletop
