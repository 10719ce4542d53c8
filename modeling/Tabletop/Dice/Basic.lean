import Tabletop.Sign
import Tabletop.Text.Basic

/-!
Dice terms: a count, a number of sides and the modifiers that are applied to the rolls in order. In
dice notation a condition is written with its sign unless the sign is the usual one of its modifier;
keeping is written with its count only above one.
-/
namespace Tabletop

structure Condition where
  sign : Sign
  value : UInt8
  deriving DecidableEq

namespace Condition

def atMost (value : UInt8) : Condition := ⟨.atMost, value⟩

def atLeast (value : UInt8) : Condition := ⟨.atLeast, value⟩

def meets (condition : Condition) (face : UInt8) : Bool :=
  condition.sign.holds face.toNat condition.value.toNat

/-- Whether every face of a die meets the condition; a die without sides counts as one with a single
side. -/
def coversEveryFace (condition : Condition) (sides : UInt8) : Bool :=
  (List.range (max sides.toNat 1)).all fun i =>
    condition.sign.holds (i + 1 : Nat) condition.value.toNat

end Condition

inductive Modifier where
  /-- Drops the dice that meet the condition and rolls one for each, once or until none meets it. -/
  | reroll (condition : Condition) (recurse : Bool)
  /-- Rolls one more die for each that meets the condition, the highest face if none is given. -/
  | explode (condition : Option Condition) (recurse : Bool)
  | keepHigh (count : UInt8)
  | keepLow (count : UInt8)
  | minimum (least : UInt8)
  | maximum (greatest : UInt8)
  deriving DecidableEq

structure Dice where
  count : UInt8
  sides : UInt8
  modifiers : List Modifier
  deriving DecidableEq

def Condition.text (condition : Condition) : Text :=
  condition.sign.symbol ++ Text.ofNat condition.value.toNat

def Condition.textAfter (usual : Sign) (condition : Condition) : Text :=
  if condition.sign = usual then Text.ofNat condition.value.toNat else condition.text

def keptCount (count : UInt8) : Text := if 1 < count.toNat then Text.ofNat count.toNat else []

def Modifier.text : Modifier → Text
  | .reroll condition recurse =>
    (if recurse then ['r', 'r'] else ['r']) ++ condition.textAfter .atMost
  | .explode condition recurse =>
    (if recurse then ['x'] else ['x', 'o']) ++
      match condition with
      | some condition => condition.textAfter .atLeast
      | none => []
  | .keepHigh count => ['k', 'h'] ++ keptCount count
  | .keepLow count => ['k', 'l'] ++ keptCount count
  | .minimum least => ['m', 'i', 'n'] ++ Text.ofNat least.toNat
  | .maximum greatest => ['m', 'a', 'x'] ++ Text.ofNat greatest.toNat

def Dice.text (dice : Dice) : Text :=
  Text.ofNat dice.count.toNat ++ 'd' :: Text.ofNat dice.sides.toNat ++
    dice.modifiers.flatMap Modifier.text

end Tabletop
