import Tabletop.Expr.Diagnosis
import Tabletop.Expr.Total

/-!
Arithmetic without chance: the value of a text that is an expression with no dice but one-sided
ones.
-/
namespace Tabletop

inductive ArithmeticError where
  | syntaxError (cause : SyntaxError)
  | needsRoll (text : Text)
  | roll (cause : RollError)
  | total (cause : TotalError)

def ArithmeticError.message : ArithmeticError → Text
  | syntaxError cause => "unable to parse expression: " ++ cause.message
  | needsRoll text => '"' :: text ++ "\" depends on a roll"
  | roll cause => cause.messageInExpr
  | total cause => cause.message

def arithmetic (text : Text) : Except ArithmeticError Amount :=
  match DiceExpr.parse text with
  | .error cause => .error (.syntaxError cause)
  | .ok expr =>
    if expr.isFixed then
      match expr.roll.run Faces.highest with
      | (.error cause, _) => .error (.roll cause)
      | (.ok rolled, _) =>
        match rolled.total with
        | .error cause => .error (.total cause)
        | .ok amount => .ok amount
    else .error (.needsRoll text.trim)

/-- A way to turn the text of a value into a number, or to refuse it. -/
abbrev Evaluator := Text → Option Amount

def Evaluator.arithmetic : Evaluator := fun text => (Tabletop.arithmetic text).toOption

end Tabletop
