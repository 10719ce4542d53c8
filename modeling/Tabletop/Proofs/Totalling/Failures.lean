import Tabletop.Proofs.Totalling.Exact

/-! Why a total is missing. The error is that of the first node, in the order in which nodes are
totalled, that has no total: dice that sum to too much, a division by zero, or an operation whose
whole number is no amount. One quotient is no amount, the least one by minus one, and it counts as a
division error like a division by zero. -/
namespace Tabletop

def Op.isDivision : Op → Bool
  | divDown | divUp => true
  | add | sub | mul => false

theorem Amount.checked_eq_error_iff {error other : ε} {m : Int} :
    checked error m = .error other ↔ error = other ∧ ¬ (-2147483648 ≤ m ∧ m ≤ 2147483647) := by
  unfold checked ofInt?
  split
  · next amount found =>
    split at found
    · next fits => simp [fits]
    · cases found
  · next missing =>
    split at missing
    · cases missing
    · next outside => simp [outside]

namespace Op

variable {a b : Amount}

theorem tdiv_halves_or_unit (m n : Int) : (m.tdiv n).natAbs ≤ m.natAbs / 2 ∨ n = 1 ∨ n = -1 := by
  by_cases two : 2 ≤ n.natAbs
  · left
    rw [Int.natAbs_tdiv]
    exact Nat.div_le_div_left two (by decide)
  · obtain rfl | unit : n = 0 ∨ n = 1 ∨ n = -1 := by omega
    · left
      rw [Int.tdiv_zero]
      exact Nat.zero_le _
    · exact .inr unit

theorem quotient_outside_iff :
    ¬ (-2147483648 ≤ a.value.tdiv b.value ∧ a.value.tdiv b.value ≤ 2147483647) ↔
      a.value = -2147483648 ∧ b.value = -1 := by
  have lower := a.lower
  have upper := a.upper
  constructor
  · intro outside
    obtain half | one | minusOne := tdiv_halves_or_unit a.value b.value
    · omega
    · rw [one, Int.tdiv_one] at outside
      omega
    · rw [minusOne, Int.tdiv_neg, Int.tdiv_one] at outside
      omega
  · rintro ⟨least, minusOne⟩
    rw [least, minusOne]
    decide

theorem next_quotient_fits (rest : a.value.tmod b.value ≠ 0) :
    -2147483648 ≤ a.value.tdiv b.value + 1 ∧ a.value.tdiv b.value + 1 ≤ 2147483647 := by
  have lower := a.lower
  have upper := a.upper
  obtain half | one | minusOne := tdiv_halves_or_unit a.value b.value
  · omega
  · exact absurd (by rw [one, Int.tmod_one]) rest
  · exact absurd (by rw [minusOne, Int.tmod_neg, Int.tmod_one]) rest

theorem divDown_eq_error_iff {cause : Op.Error} :
    apply .divDown a b = .error cause ↔
      cause = .division ∧ (b.value = 0 ∨ a.value = -2147483648 ∧ b.value = -1) := by
  rw [apply_divDown]
  split
  · next zero => simp [zero, eq_comm]
  · next divides =>
    simp only [Amount.checked_eq_error_iff, quotient_outside_iff, divides, false_or]
    exact and_congr_left fun _ => eq_comm

theorem divUp_eq_error_iff {cause : Op.Error} :
    apply .divUp a b = .error cause ↔ apply .divDown a b = .error cause := by
  rw [apply_divUp]
  cases quotient : apply .divDown a b with
  | error other => rfl
  | ok q =>
    simp only [Except.bind, reduceCtorEq, iff_false]
    split
    · simp
    · next rest =>
      have fits := next_quotient_fits rest
      rw [(divDown_eq_ok_iff.mp quotient).2] at fits
      simp [Amount.checked_eq_error_iff, fits]

theorem apply_eq_division_iff {op : Op} :
    op.apply a b = .error .division ↔
      op.isDivision = true ∧ (b.value = 0 ∨ a.value = -2147483648 ∧ b.value = -1) := by
  cases op with
  | add | sub | mul =>
    simp only [isDivision, Bool.false_eq_true, false_and, iff_false]
    exact fun failed => nomatch (Amount.checked_eq_error_iff.mp failed).1
  | divDown => simp [divDown_eq_error_iff, isDivision]
  | divUp => simp [divUp_eq_error_iff, divDown_eq_error_iff, isDivision]

theorem apply_eq_overflow_iff {op : Op} :
    op.apply a b = .error .overflow ↔
      op.isDivision = false ∧
        ∃ n, op.value? a.value b.value = some n ∧ ¬ (-2147483648 ≤ n ∧ n ≤ 2147483647) := by
  cases op with
  | add | sub | mul =>
    simp only [isDivision, value?, Option.some.injEq, exists_eq_left', true_and]
    exact Amount.checked_eq_error_iff.trans (and_iff_right rfl)
  | divDown => simp [divDown_eq_error_iff, isDivision]
  | divUp => simp [divUp_eq_error_iff, divDown_eq_error_iff, isDivision]

theorem least_of_outside {op : Op} {n : Int} (division : op.isDivision = true)
    (value : op.value? a.value b.value = some n) (outside : ¬ (-2147483648 ≤ n ∧ n ≤ 2147483647)) :
    a.value = -2147483648 ∧ b.value = -1 := by
  cases op with
  | add | sub | mul => cases division
  | divDown =>
    simp only [value?, Option.ite_none_left_eq_some, Option.some.injEq] at value
    exact quotient_outside_iff.mp (value.2 ▸ outside)
  | divUp =>
    simp only [value?, Option.ite_none_left_eq_some, Option.some.injEq] at value
    obtain ⟨_, rfl⟩ := value
    split at outside
    · exact quotient_outside_iff.mp outside
    · next rest => exact absurd (next_quotient_fits rest) outside

end Op

def Expr.evaluation {Leaf : Type} : Expr Leaf → List (Expr Leaf)
  | number n => [number n]
  | leaf x => [leaf x]
  | neg e => e.evaluation ++ [neg e]
  | binary op a b => a.evaluation ++ (b.evaluation ++ [binary op a b])

def TotalError.node : TotalError → RolledExpr
  | dice rolled => .leaf rolled
  | overflow node => node
  | division node => node

namespace RolledExpr

def firstFailing? (expr : RolledExpr) : Option RolledExpr :=
  expr.evaluation.find? fun node => !(total node).isOk

def DividesByZero : RolledExpr → Prop
  | .binary op _ b => op.isDivision = true ∧ value? b = some 0
  | _ => False

/-- The one quotient that is no amount. -/
def DividesLeastByMinusOne : RolledExpr → Prop
  | .binary op a b => op.isDivision = true ∧ value? a = some (-2147483648) ∧ value? b = some (-1)
  | _ => False

def Overflows (node : RolledExpr) : Prop :=
  node.isAtom = false ∧ ∃ n, node.value? = some n ∧ ¬ (-2147483648 ≤ n ∧ n ≤ 2147483647)

def SumsTooHigh : RolledExpr → Prop
  | .leaf rolled => 65535 < rolled.sum
  | _ => False

inductive Fails : TotalError → Prop
  | dice {rolled : Rolled} (high : 65535 < rolled.sum) : Fails (.dice rolled)
  | negation {e : RolledExpr} {m : Amount} (inner : e.total = .ok m)
      (outside : ¬ (-2147483648 ≤ -m.value ∧ -m.value ≤ 2147483647)) : Fails (.overflow (.neg e))
  | overflow {op : Op} {a b : RolledExpr} {left right : Amount} (first : a.total = .ok left)
      (second : b.total = .ok right) (failed : op.apply left right = .error .overflow) :
      Fails (.overflow (.binary op a b))
  | division {op : Op} {a b : RolledExpr} {left right : Amount} (first : a.total = .ok left)
      (second : b.total = .ok right) (failed : op.apply left right = .error .division) :
      Fails (.division (.binary op a b))

variable {expr : RolledExpr} {cause : TotalError}

theorem total_leaf_eq_error_iff {rolled : Rolled} :
    total (.leaf rolled) = .error cause ↔ 65535 < rolled.sum ∧ cause = .dice rolled := by
  unfold total Rolled.total?
  split
  · next amount found =>
    split at found
    · next small => simp [Nat.not_lt.mpr small]
    · cases found
  · next missing =>
    split at missing
    · cases missing
    · next large => simp [Nat.not_le.mp large, eq_comm]

theorem total_neg_eq_error_iff {e : RolledExpr} :
    total (.neg e) = .error cause ↔ e.total = .error cause ∨
      ∃ m, e.total = .ok m ∧ ¬ (-2147483648 ≤ -m.value ∧ -m.value ≤ 2147483647) ∧
        cause = .overflow (.neg e) := by
  have shape :
      total (.neg e) = e.total.bind fun m => Amount.checked (.overflow (.neg e)) (-m.value) := rfl
  rw [shape]
  cases e.total with
  | error other => simp [Except.bind]
  | ok m =>
    simp only [Except.bind, Amount.checked_eq_error_iff, reduceCtorEq, Except.ok.injEq, false_or,
      exists_eq_left']
    rw [and_comm, eq_comm]

theorem total_binary_eq_error_iff {op : Op} {a b : RolledExpr} :
    total (.binary op a b) = .error cause ↔
      a.total = .error cause ∨
      (∃ left, a.total = .ok left ∧ b.total = .error cause) ∨
      ∃ left right, a.total = .ok left ∧ b.total = .ok right ∧
        (op.apply left right = .error .overflow ∧ cause = .overflow (.binary op a b) ∨
          op.apply left right = .error .division ∧ cause = .division (.binary op a b)) := by
  simp only [total, bind, Except.bind]
  cases a.total with
  | error other => simp
  | ok left =>
    cases b.total with
    | error other => simp
    | ok right =>
      cases applied : op.apply left right with
      | ok amount => simp [applied]
      | error other => cases other <;> simp [applied, eq_comm]

theorem isOk_of_total {n : Amount} (found : expr.total = .ok n) : expr.total.isOk = true := by
  rw [found]
  rfl

theorem isOk_nodes_of_total {n : Amount} (found : expr.total = .ok n) :
    ∀ node ∈ expr.evaluation, (RolledExpr.total node).isOk = true := by
  induction expr generalizing n with
  | number m => exact List.forall_mem_singleton.mpr (isOk_of_total found)
  | leaf rolled => exact List.forall_mem_singleton.mpr (isOk_of_total found)
  | neg e ih =>
    obtain ⟨m, inner, _⟩ := total_neg_eq_ok_iff.mp found
    exact List.forall_mem_append.mpr ⟨ih inner, List.forall_mem_singleton.mpr (isOk_of_total found)⟩
  | binary op a b ihLeft ihRight =>
    obtain ⟨left, right, first, second, _⟩ := total_binary_eq_ok_iff.mp found
    exact List.forall_mem_append.mpr ⟨ihLeft first,
      List.forall_mem_append.mpr ⟨ihRight second,
        List.forall_mem_singleton.mpr (isOk_of_total found)⟩⟩

theorem find?_operands {operands : List RolledExpr}
    (fit : ∀ node ∈ operands, (total node).isOk = true) :
    operands.find? (fun node => !(total node).isOk) = none :=
  List.find?_eq_none.mpr fun node here => by simp [fit node here]

theorem find?_last {operands : List RolledExpr} (fit : ∀ node ∈ operands, (total node).isOk = true)
    (failed : expr.total = .error cause) :
    (operands ++ [expr]).find? (fun node => !(total node).isOk) = some expr := by
  have missing : (total expr).isOk = false := by
    rw [failed]
    rfl
  rw [List.find?_append, find?_operands fit, List.find?_singleton, missing]
  rfl

theorem fails_of_total (failed : expr.total = .error cause) :
    Fails cause ∧ expr.firstFailing? = some cause.node := by
  induction expr with
  | number n => cases failed
  | leaf rolled =>
    obtain ⟨high, rfl⟩ := total_leaf_eq_error_iff.mp failed
    exact ⟨.dice high, find?_last (List.forall_mem_nil _) failed⟩
  | neg e ih =>
    rw [firstFailing?, Expr.evaluation]
    obtain earlier | ⟨m, inner, outside, rfl⟩ := total_neg_eq_error_iff.mp failed
    · obtain ⟨fails, first⟩ := ih earlier
      exact ⟨fails, by rw [List.find?_append, ← firstFailing?, first, Option.some_or]⟩
    · exact ⟨.negation inner outside, find?_last (isOk_nodes_of_total inner) failed⟩
  | binary op a b ihLeft ihRight =>
    rw [firstFailing?, Expr.evaluation]
    obtain earlier | ⟨left, first, later⟩ | ⟨left, right, first, second, here⟩ :=
      total_binary_eq_error_iff.mp failed
    · obtain ⟨fails, found⟩ := ihLeft earlier
      exact ⟨fails, by rw [List.find?_append, ← firstFailing?, found, Option.some_or]⟩
    · -- The left operand has a total, so all its nodes are passed over.
      obtain ⟨fails, found⟩ := ihRight later
      refine ⟨fails, ?_⟩
      rw [List.find?_append, find?_operands (isOk_nodes_of_total first), Option.none_or,
        List.find?_append, ← firstFailing?, found, Option.some_or]
    · have fit := List.forall_mem_append.mpr ⟨isOk_nodes_of_total first, isOk_nodes_of_total second⟩
      rw [← List.append_assoc]
      obtain ⟨applied, rfl⟩ | ⟨applied, rfl⟩ := here
      · exact ⟨.overflow first second applied, find?_last fit failed⟩
      · exact ⟨.division first second applied, find?_last fit failed⟩

theorem applied_division_iff {op : Op} {a b : RolledExpr} {left right : Amount}
    (first : a.total = .ok left) (second : b.total = .ok right) :
    op.apply left right = .error .division ↔
      DividesByZero (.binary op a b) ∨ DividesLeastByMinusOne (.binary op a b) := by
  simp only [Op.apply_eq_division_iff, DividesByZero, DividesLeastByMinusOne, value?_of_total first,
    value?_of_total second, Option.some.injEq, and_or_left]

theorem applied_overflow_iff {op : Op} {a b : RolledExpr} {left right : Amount}
    (first : a.total = .ok left) (second : b.total = .ok right) :
    op.apply left right = .error .overflow ↔
      Overflows (.binary op a b) ∧ ¬ DividesLeastByMinusOne (.binary op a b) := by
  simp only [Op.apply_eq_overflow_iff, Overflows, Expr.isAtom, DividesLeastByMinusOne, value?,
    value?_of_total first, value?_of_total second, Option.bind_some, Option.some.injEq, true_and]
  constructor
  · rintro ⟨plain, outside⟩
    refine ⟨outside, fun least => ?_⟩
    exact Bool.eq_false_iff.mp plain least.1
  · rintro ⟨⟨n, value, outside⟩, others⟩
    refine ⟨Bool.eq_false_iff.mpr fun division => ?_, n, value, outside⟩
    exact others ⟨division, Op.least_of_outside division value outside⟩

theorem Fails.division_iff (fails : Fails cause) :
    (∃ node, cause = .division node) ↔ cause.node.DividesByZero ∨
      cause.node.DividesLeastByMinusOne := by
  cases fails with
  | dice | negation => simp [TotalError.node, DividesByZero, DividesLeastByMinusOne]
  | overflow first second failed =>
    simp [TotalError.node, ← applied_division_iff first second, failed]
  | division first second failed =>
    simp [TotalError.node, ← applied_division_iff first second, failed]

theorem Fails.overflow_iff (fails : Fails cause) :
    (∃ node, cause = .overflow node) ↔ cause.node.Overflows ∧
      ¬ cause.node.DividesLeastByMinusOne := by
  cases fails with
  | dice => simp [TotalError.node, Overflows, Expr.isAtom]
  | negation inner outside =>
    have value : value? (.neg _) = some _ :=
      congrArg (Option.map fun n => -n) (value?_of_total inner)
    simp only [TotalError.node, DividesLeastByMinusOne, not_false_eq_true, and_true,
      TotalError.overflow.injEq, exists_eq', true_iff]
    exact ⟨rfl, _, value, outside⟩
  | overflow first second failed =>
    simp [TotalError.node, ← applied_overflow_iff first second, failed]
  | division first second failed =>
    simp [TotalError.node, ← applied_overflow_iff first second, failed]

theorem Fails.dice_iff (fails : Fails cause) :
    (∃ rolled, cause = .dice rolled) ↔ cause.node.SumsTooHigh := by
  cases fails with
  | dice high => simp [TotalError.node, SumsTooHigh, high]
  | negation | overflow | division => simp [TotalError.node, SumsTooHigh]

/-- A missing total is explained by the first node, in evaluation order, that has none. The error is
a division error exactly when the node divides by zero or the least amount by minus one, an overflow
exactly when it is any other negation or operator whose whole number is no amount, and a dice error
exactly when it is a set that sums to too much. -/
theorem total_error_cause (failed : expr.total = .error cause) :
    expr.firstFailing? = some cause.node ∧
      ((∃ node, cause = .division node) ↔
        cause.node.DividesByZero ∨ cause.node.DividesLeastByMinusOne) ∧
      ((∃ node, cause = .overflow node) ↔
        cause.node.Overflows ∧ ¬ cause.node.DividesLeastByMinusOne) ∧
      ((∃ rolled, cause = .dice rolled) ↔ cause.node.SumsTooHigh) := by
  obtain ⟨fails, first⟩ := fails_of_total failed
  exact ⟨first, fails.division_iff, fails.overflow_iff, fails.dice_iff⟩

theorem total_error_cause_leftmost :
    let three : RolledExpr := .number ⟨3, by decide, by decide⟩
    let greatest : RolledExpr := .number ⟨2147483647, by decide, by decide⟩
    let quotient : RolledExpr := .binary .divUp greatest (.binary .sub three three)
    let expr : RolledExpr := .binary .add (.neg quotient) (.binary .mul greatest greatest)
    expr.total = .error (.division quotient) ∧
      expr.firstFailing? = some quotient ∧
      (quotient.DividesByZero ∨ quotient.DividesLeastByMinusOne) ∧
      ¬ (quotient.Overflows ∧ ¬ quotient.DividesLeastByMinusOne) ∧
      ¬ quotient.SumsTooHigh := by
  intro three greatest quotient expr
  have failed : expr.total = .error (.division quotient) := rfl
  obtain ⟨first, division, overflow, dice⟩ := total_error_cause failed
  exact ⟨failed, first, division.mp ⟨quotient, rfl⟩,
    fun overflows => (nomatch overflow.mpr overflows), fun high => nomatch dice.mpr high⟩

/-- The least amount by minus one: the whole number is no amount and the divisor is not zero, and
still it is no overflow but a division error. -/
theorem least_by_minusOne_misnamed :
    let one : RolledExpr := .number ⟨1, by decide, by decide⟩
    let greatest : RolledExpr := .number ⟨2147483647, by decide, by decide⟩
    let expr : RolledExpr := .binary .divDown (.binary .sub (.neg greatest) one) (.neg one)
    expr.total = .error (.division expr) ∧ expr.firstFailing? = some expr ∧
      expr.Overflows ∧ ¬ expr.DividesByZero := by
  intro one greatest expr
  refine ⟨rfl, rfl, ⟨rfl, 2147483648, rfl, by decide⟩, ?_⟩
  rintro ⟨_, zero⟩
  exact absurd (Option.some.inj zero) (by decide)

end RolledExpr
end Tabletop
