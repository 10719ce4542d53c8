import Tabletop.Amount
import Tabletop.Dice.Basic

/-!
Single rolled dice and rolled sets. A die remembers the face it landed on, through its list of
changes, and which modifier added or dropped it; it keeps the first of each.
-/
namespace Tabletop

structure Change where
  before : UInt8
  after : UInt8
  cause : Modifier
  deriving DecidableEq

/-- A rolled die: its value, the modifiers that added and dropped it, and its changes, oldest
first. -/
structure Die where
  value : UInt8
  addedBy : Option Modifier := none
  droppedBy : Option Modifier := none
  changes : List Change := []
  deriving DecidableEq

namespace Die

def add (cause : Modifier) (die : Die) : Die := { die with addedBy := die.addedBy <|> some cause }

def drop (cause : Modifier) (die : Die) : Die :=
  { die with droppedBy := die.droppedBy <|> some cause }

def change (cause : Modifier) (value : UInt8) (die : Die) : Die :=
  { die with value, changes := die.changes ++ [⟨die.value, value, cause⟩] }

def natural (die : Die) : UInt8 :=
  match die.changes with
  | [] => die.value
  | first :: _ => first.before

def isInitial (die : Die) : Bool := die.addedBy.isNone

def isKept (die : Die) : Bool := die.droppedBy.isNone

def isChanged (die : Die) : Bool := !die.changes.isEmpty

def text (die : Die) : Text :=
  Text.ofNat die.value.toNat ++ (if die.isChanged then [' ', '(', 'm', ')'] else []) ++
    if die.isKept then [] else [' ', '(', 'd', ')']

end Die

structure Rolled where
  dice : Dice
  rolls : List Die
  deriving DecidableEq

namespace Rolled

def ofFaces (dice : Dice) (faces : List UInt8) : Rolled :=
  ⟨dice, faces.map fun face => { value := face }⟩

def sum (rolled : Rolled) : Nat :=
  (rolled.rolls.filter Die.isKept).foldl (fun sum die => sum + die.value.toNat) 0

def total? (rolled : Rolled) : Option Amount :=
  if small : rolled.sum ≤ 65535 then some (Amount.ofSum rolled.sum small) else none

/-- The faces on which the dice landed, without those that modifiers added. -/
def natural (rolled : Rolled) : List UInt8 := (rolled.rolls.filter Die.isInitial).map Die.natural

def text (limit : Option Nat) (rolled : Rolled) : Text :=
  let shown := rolled.rolls.take (limit.getD rolled.rolls.length)
  let hidden := rolled.rolls.length - shown.length
  rolled.dice.text ++ '[' :: Text.joined [',', ' '] (shown.map Die.text) ++
    (if 0 < hidden then [',', ' '] ++ Text.ofNat hidden ++ " more..." else []) ++ [']']

end Rolled
end Tabletop
