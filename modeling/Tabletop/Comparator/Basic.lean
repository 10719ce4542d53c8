import Tabletop.Sign
import Tabletop.Amount

/-!
Comparators: the thresholds that a total is tested against. A threshold whose text has no number
stays unresolved and decides nothing. Further thresholds behind the first one oppose it.
-/
namespace Tabletop

/-- A sign with a threshold: its number if it has one, its text, and, if it was rolled, the dice and
the list of their rolls. -/
structure Threshold where
  sign : Sign
  value : Option Amount
  raw : Text
  diceText : Option Text := none
  rolledText : Option Text := none
  deriving DecidableEq

namespace Threshold

def ofAmount (sign : Sign) (value : Amount) : Threshold :=
  { sign, value := some value, raw := value.text }

def unresolved (sign : Sign) (raw : Text) : Threshold := { sign, value := none, raw }

def rolledFrom (dice rolled : Text) (threshold : Threshold) : Threshold :=
  { threshold with diceText := some dice, rolledText := some rolled }

def test (threshold : Threshold) (total : Amount) : Option Bool :=
  threshold.value.map fun value => threshold.sign.holds total.value value.value

def text (threshold : Threshold) : Text :=
  threshold.sign.symbol ++ match threshold.value with
    | some value => value.text
    | none => threshold.raw

end Threshold

/-- A threshold with the thresholds that oppose it in turn. -/
structure Comparator where
  primary : Threshold
  opposed : List Threshold := []
  deriving DecidableEq

end Tabletop
