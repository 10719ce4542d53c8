import Tabletop.Amount
import Tabletop.Dice.Basic

/-!
Expressions: numbers and leaves joined by negation and five operators. The leaves of an expression
as written are dice, those of a rolled one are the rolled sets, so both share one type, one printer
and one evaluation order, from left to right.
-/
namespace Tabletop

/-- The binary operators; the two divisions differ in how they round. -/
inductive Op where
  | add | sub | mul | divDown | divUp
  deriving DecidableEq

namespace Op

def symbol : Op → Char
  | add => '+'
  | sub => '-'
  | mul => '*'
  | divDown => '/'
  | divUp => '\\'

def isMultiplicative : Op → Bool
  | add | sub => false
  | mul | divDown | divUp => true

end Op

inductive Expr (Leaf : Type) where
  | number (value : Amount)
  | leaf (leaf : Leaf)
  | neg (operand : Expr Leaf)
  | binary (op : Op) (left right : Expr Leaf)
  deriving DecidableEq

abbrev DiceExpr := Expr Dice

namespace Expr

variable {Leaf Other : Type}

def rootOp? : Expr Leaf → Option Op
  | binary op _ _ => some op
  | _ => none

def isAtom : Expr Leaf → Bool
  | number _ | leaf _ => true
  | _ => false

def leaves : Expr Leaf → List Leaf
  | number _ => []
  | leaf x => [x]
  | neg e => e.leaves
  | binary _ a b => a.leaves ++ b.leaves

def traverse [Monad m] (action : Leaf → m Other) : Expr Leaf → m (Expr Other)
  | number n => return number n
  | leaf x => return leaf (← action x)
  | neg e => return neg (← e.traverse action)
  | binary op a b => do
    let a ← a.traverse action
    return binary op a (← b.traverse action)

def grouped (text : Text) : Text := '(' :: text ++ [')']

/-- The expression in infix notation. A negated operation, a right operand that is an operation, and
a left operand of the other kind of binding stand in parentheses. -/
def text (leafText : Leaf → Text) : Expr Leaf → Text
  | number n => n.text
  | leaf x => leafText x
  | neg e => '-' :: if e.isAtom then e.text leafText else grouped (e.text leafText)
  | binary op a b =>
    let left := a.text leafText
    let right := b.text leafText
    (if a.rootOp?.any fun child => child.isMultiplicative != op.isMultiplicative then grouped left
      else left) ++
      ' ' :: op.symbol :: ' ' :: (if b.rootOp?.isSome then grouped right else right)

end Expr

def DiceExpr.text (expr : DiceExpr) : Text := Expr.text Dice.text expr

def DiceExpr.isFixed (expr : DiceExpr) : Bool := expr.leaves.all fun dice => dice.sides = 1

end Tabletop
