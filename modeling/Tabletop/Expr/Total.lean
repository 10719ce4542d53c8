import Tabletop.Expr.Basic
import Tabletop.Dice.Rolling

/-!
Rolling and totalling expressions. Rolling goes from left to right and totalling is exact: a node
whose value is no amount is an error that shows the node.
-/
namespace Tabletop

abbrev RolledExpr := Expr Rolled

def RolledExpr.text (limit : Option Nat) (expr : RolledExpr) : Text :=
  Expr.text (Rolled.text limit) expr

def RolledExpr.natural (expr : RolledExpr) : List UInt8 := expr.leaves.flatMap Rolled.natural

def DiceExpr.roll (expr : DiceExpr) : Rolling RolledExpr := Expr.traverse Dice.roll expr

def RollError.messageInExpr (cause : RollError) : Text :=
  match cause with
  | endless dice => "dice error while evaluating \"" ++ dice.text ++ "\": " ++ cause.message
  | unfinished => cause.message

inductive Op.Error where
  | overflow
  | division

/-- The result of an operator. Both divisions go toward zero first, and `divUp` then adds one when
there is a remainder; the one quotient that is no amount counts as a division error. -/
def Op.apply (op : Op) (a b : Amount) : Except Op.Error Amount :=
  let checked (n : Int) : Except Op.Error Amount :=
    match Amount.ofInt? n with
    | some amount => .ok amount
    | none => .error .overflow
  let quotient : Except Op.Error Amount :=
    if b.value = 0 then .error .division
    else match Amount.ofInt? (a.value.tdiv b.value) with
      | some amount => .ok amount
      | none => .error .division
  match op with
  | .add => checked (a.value + b.value)
  | .sub => checked (a.value - b.value)
  | .mul => checked (a.value * b.value)
  | .divDown => quotient
  | .divUp => do
    let q ← quotient
    if a.value.tmod b.value = 0 then return q else checked (q.value + 1)

/-- Why a rolled expression has no total, with the node that has no value. -/
inductive TotalError where
  | dice (rolled : Rolled)
  | overflow (node : RolledExpr)
  | division (node : RolledExpr)

def TotalError.message : TotalError → Text
  | dice rolled => "dice error while calculating (" ++ rolled.text none ++ "): integer overflow"
  | overflow node => "integer overflow while calculating " ++ node.text none
  | division node => "division error while calculating " ++ node.text none

def RolledExpr.total : RolledExpr → Except TotalError Amount
  | .number n => .ok n
  | .leaf rolled =>
    match rolled.total? with
    | some amount => .ok amount
    | none => .error (.dice rolled)
  | .neg e => do
    let n ← RolledExpr.total e
    match Amount.ofInt? (-n.value) with
    | some amount => .ok amount
    | none => .error (.overflow (.neg e))
  | .binary op a b => do
    let left ← RolledExpr.total a
    let right ← RolledExpr.total b
    match op.apply left right with
    | .ok amount => .ok amount
    | .error .overflow => .error (.overflow (.binary op a b))
    | .error .division => .error (.division (.binary op a b))

end Tabletop
