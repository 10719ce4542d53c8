import Tabletop.Proofs.Totalling.Exact

/-! Zeros among the operands. What an expression comes to is put together from what its operands
come to, so an operand that always comes to zero can be left out of a sum or taken off a difference,
whatever the faces. -/
namespace Tabletop

theorem toOption_eq_some_iff {result : Except ε α} {a : α} :
    result.toOption = some a ↔ result = .ok a := by
  cases result <;> simp [Except.toOption]

/-- What the expression comes to on the faces that are thrown for it, if what is rolled has a
total. -/
def DiceExpr.outcome (e : DiceExpr) : Rolling (Option Amount) := do
  return (← e.roll).total.toOption

namespace RolledExpr

theorem toOption_total_neg (e : RolledExpr) :
    (total (.neg e)).toOption = e.total.toOption.bind fun n => Amount.ofInt? (-n.value) := by
  ext n
  simp only [toOption_eq_some_iff, total_neg_eq_ok_iff, Option.bind_eq_some_iff,
    Amount.ofInt?_eq_some_iff]
  exact exists_congr fun m => and_congr_right fun _ => eq_comm

theorem toOption_total_binary (op : Op) (a b : RolledExpr) :
    (total (.binary op a b)).toOption =
      a.total.toOption.bind fun x => b.total.toOption.bind fun y => (op.apply x y).toOption := by
  ext n
  simp only [toOption_eq_some_iff, total_binary_eq_ok_iff, Option.bind_eq_some_iff, exists_and_left]

end RolledExpr

namespace DiceExpr

variable {e a b zero : DiceExpr}

theorem outcome_neg (e : DiceExpr) :
    outcome (.neg e) = do return (← e.outcome).bind fun n => Amount.ofInt? (-n.value) := by
  simp only [outcome, roll, Expr.traverse, bind_assoc, pure_bind, RolledExpr.toOption_total_neg]

theorem outcome_binary (op : Op) (a b : DiceExpr) :
    outcome (.binary op a b) = do
      let x ← a.outcome
      let y ← b.outcome
      return x.bind fun x => y.bind fun y => (op.apply x y).toOption := by
  simp only [outcome, roll, Expr.traverse, bind_assoc, pure_bind, RolledExpr.toOption_total_binary]

theorem outcome_neg_congr (same : a.outcome = b.outcome) : outcome (.neg a) = outcome (.neg b) := by
  rw [outcome_neg, same, outcome_neg]

theorem outcome_binary_congr {c d : DiceExpr} (op : Op) (left : a.outcome = c.outcome)
    (right : b.outcome = d.outcome) : outcome (.binary op a b) = outcome (.binary op c d) := by
  rw [outcome_binary, left, right, outcome_binary]

def IsZero (e : DiceExpr) : Prop := e.outcome = pure (some ⟨0, by decide, by decide⟩)

theorem isZero_number : IsZero (.number ⟨0, by decide, by decide⟩) := rfl

namespace IsZero

theorem neg (isZero : e.IsZero) : IsZero (.neg e) := by
  rw [IsZero, outcome_neg, isZero, pure_bind]
  rfl

theorem outcome_behind (isZero : zero.IsZero) {op : Op} (additive : op.isMultiplicative = false)
    (a : DiceExpr) : outcome (.binary op a zero) = a.outcome := by
  have unchanged (x : Amount) : (op.apply x ⟨0, by decide, by decide⟩).toOption = some x := by
    rw [toOption_eq_some_iff, Op.apply_eq_ok_iff]
    cases op <;> simp_all [Op.value?, Op.isMultiplicative]
  rw [outcome_binary, isZero]
  simp only [pure_bind, Option.bind_some, unchanged, Option.bind_fun_some, bind_pure]

theorem outcome_before (isZero : zero.IsZero) (op : Op) (b : DiceExpr) :
    outcome (.binary op zero b) = do
      return (← b.outcome).bind fun y => (op.apply ⟨0, by decide, by decide⟩ y).toOption := by
  rw [outcome_binary, isZero, pure_bind]
  rfl

theorem outcome_add (isZero : zero.IsZero) (b : DiceExpr) :
    outcome (.binary .add zero b) = b.outcome := by
  have unchanged (y : Amount) : (Op.apply .add ⟨0, by decide, by decide⟩ y).toOption = some y := by
    rw [toOption_eq_some_iff, Op.apply_eq_ok_iff]
    simp [Op.value?]
  simp only [isZero.outcome_before, unchanged, Option.bind_fun_some, bind_pure]

theorem outcome_sub (isZero : zero.IsZero) (b : DiceExpr) :
    outcome (.binary .sub zero b) = outcome (.neg b) := by
  have negated (y : Amount) :
      (Op.apply .sub ⟨0, by decide, by decide⟩ y).toOption = Amount.ofInt? (-y.value) := by
    ext n
    rw [toOption_eq_some_iff, Op.apply_eq_ok_iff, Amount.ofInt?_eq_some_iff]
    simp [Op.value?, eq_comm]
  simp only [isZero.outcome_before, negated, outcome_neg]

end IsZero
end DiceExpr
end Tabletop
