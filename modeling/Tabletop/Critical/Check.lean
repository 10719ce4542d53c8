import Tabletop.Critical.Block
import Tabletop.Amount

/-!
Critical checks and thresholds, and named rules. A check on the natural dice passes when any of them
meets it; thresholds have at most one check for each kind.
-/
namespace Tabletop

/-- A comparison with a number, of each natural die or of the total. -/
structure CriticalCheck where
  sign : Sign
  value : Amount
  onNaturalDie : Bool
  deriving DecidableEq

namespace CriticalCheck

def natural (value : Amount) : CriticalCheck := ⟨.equal, value, true⟩

def holds (check : CriticalCheck) (faces : List UInt8) (total : Amount) : Bool :=
  if check.onNaturalDie then faces.any fun face => check.sign.holds face.toNat check.value.value
  else check.sign.holds total.value check.value.value

end CriticalCheck

structure CriticalThresholds where
  success : Option CriticalCheck := none
  failure : Option CriticalCheck := none
  deriving DecidableEq

namespace CriticalThresholds

def natural (success failure : Option Amount) : CriticalThresholds :=
  ⟨success.map .natural, failure.map .natural⟩

def isEmpty (thresholds : CriticalThresholds) : Bool :=
  thresholds.success.isNone && thresholds.failure.isNone

def set (thresholds : CriticalThresholds) (kind : CriticalKind) (check : CriticalCheck) :
    CriticalThresholds :=
  match kind with
  | .success => { thresholds with success := some check }
  | .failure => { thresholds with failure := some check }

end CriticalThresholds

/-- A named critical: the check that it stands for, with the text of its value, and whether it
applies to skill rolls. -/
structure CriticalRule where
  name : Text
  sign : Sign
  value : Text
  onNaturalDie : Bool := false
  affectsSkill : Bool := true
  deriving DecidableEq

end Tabletop
