import Mathlib.Data.List.Forall2
import Tabletop.Outcome.Roll
import Tabletop.Proofs.Composing.Clauses
import Tabletop.Proofs.Reading.Printing
import Tabletop.Proofs.Rolling.Faces

/-! Thresholds as they are rolled. A threshold without dice has one value whatever the faces are,
and that value, written out, is a threshold of the same value again, unless it is the least
amount. -/
namespace Tabletop

namespace DiceExpr

theorem exists_roll_of_no_leaves {expr : DiceExpr} (dry : expr.leaves = []) :
    ∃ rolled, ∀ faces, expr.roll.run faces = (.ok rolled, faces) := by
  unfold roll
  induction expr with
  | number n => exact ⟨.number n, fun _ => rfl⟩
  | leaf dice => cases dry
  | neg e ih =>
    obtain ⟨inner, rolls⟩ := ih dry
    refine ⟨.neg inner, fun faces => ?_⟩
    simp only [Expr.traverse, run_bind, rolls]
    rfl
  | binary op a b ihA ihB =>
    obtain ⟨dryA, dryB⟩ := List.append_eq_nil_iff.mp dry
    obtain ⟨left, rollsA⟩ := ihA dryA
    obtain ⟨right, rollsB⟩ := ihB dryB
    refine ⟨.binary op left right, fun faces => ?_⟩
    simp only [Expr.traverse, run_bind, rollsA, rollsB]
    rfl

end DiceExpr

/-- The text is an expression without dice that has the value. -/
def Denotes (text : Text) (n : Amount) : Prop :=
  (∃ expr, DiceExpr.parse? text = some expr ∧ expr.leaves = []) ∧ Evaluator.arithmetic text = some n

theorem arithmetic_of_no_leaves {text : Text} {expr : DiceExpr} {rolled : RolledExpr}
    (reads : DiceExpr.parse? text = some expr) (dry : expr.leaves = [])
    (rolls : ∀ faces, expr.roll.run faces = (.ok rolled, faces)) :
    Evaluator.arithmetic text = rolled.total.toOption := by
  have read : DiceExpr.parse text = .ok expr := DiceExpr.parse_eq_ok_iff_parse?.mpr reads
  have fixed : expr.isFixed = true := by simp [DiceExpr.isFixed, dry]
  simp only [Evaluator.arithmetic, arithmetic, read, fixed, if_true, rolls]
  cases rolled.total <;> rfl

theorem denotes_of_rolled {text : Text} {expr : DiceExpr} {rolled : RolledExpr} {n : Amount}
    (reads : DiceExpr.parse? text = some expr) (dry : expr.leaves = [])
    (rolls : ∀ faces, expr.roll.run faces = (.ok rolled, faces)) (total : rolled.total = .ok n) :
    Denotes text n := by
  refine ⟨⟨expr, reads, dry⟩, ?_⟩
  rw [arithmetic_of_no_leaves reads dry rolls, total]
  rfl

theorem Amount.denotes_text {n : Amount} (above : -2147483648 < n.value) : Denotes n.text n := by
  rcases Int.lt_or_le n.value 0 with negative | nonneg
  · let positive : Amount := ⟨-n.value, by omega, by omega⟩
    have text : n.text = '-' :: positive.text := by
      obtain ⟨k, value⟩ := Int.eq_negSucc_of_lt_zero negative
      have opposite : positive.value = Int.ofNat (k + 1) := by simp [positive, value]
      rw [Amount.text, Amount.text, value, opposite]
      rfl
    have sentence : Sentence .sum n.text.lowercase (.neg (.number positive)) := by
      rw [Text.lowercase_of_plain n.plain_text, text]
      have inner : Sentence .atom positive.text (.number positive) :=
        Amount.sentence (by simp only [positive]; omega)
      exact .ofProduct (.ofUnary (.minus (.refl ['-']) (.ofAtom inner)))
    refine denotes_of_rolled (DiceExpr.parse?_of_sentence sentence) rfl (fun _ => rfl) ?_
    have value : Amount.ofInt? (-positive.value) = some n :=
      Amount.ofInt?_eq_some_iff.mpr (by simp [positive])
    simp [RolledExpr.total, bind, Except.bind, value]
  · have sentence : Sentence .sum n.text.lowercase (.number n) := by
      rw [Text.lowercase_of_plain n.plain_text]
      exact .ofProduct (.ofUnary (.ofAtom (Amount.sentence nonneg)))
    exact denotes_of_rolled (DiceExpr.parse?_of_sentence sentence) rfl (fun _ => rfl) rfl

theorem denotes_evaluateThreshold {value : Text} {n : Amount} (denotes : Denotes value n)
    (above : -2147483648 < n.value) : Denotes (evaluateThreshold .arithmetic value) n := by
  unfold evaluateThreshold
  split
  · exact denotes
  · rw [denotes.2]
    exact n.denotes_text above

namespace Engine

theorem of_evaluate {expr : DiceExpr} {rolled : RolledExpr} {amount : Amount} {faces rest : Faces}
    (done : (evaluate expr).run faces = (.ok (rolled, amount), rest)) :
    expr.roll.run faces = (.ok rolled, rest) ∧ rolled.total = .ok amount := by
  obtain ⟨inner, last, rolls, done⟩ := bind_run_eq_ok done
  rw [run_adapt] at rolls
  rcases ran : expr.roll.run faces with ⟨_ | result, left⟩
  · rw [ran] at rolls
    cases rolls
  · rw [ran] at rolls
    cases rolls
    cases total : RolledExpr.total inner with
    | error cause =>
      simp only [total] at done
      cases done
    | ok n =>
      simp only [total] at done
      cases done
      exact ⟨rfl, total⟩

section Runs

variable {limit : Option Nat} {faces rest : Faces}

theorem threshold_run_eq_ok {sign : Sign} {value : Text} {threshold : Threshold}
    (done : (Engine.threshold limit sign value).run faces = (.ok threshold, rest)) :
    (DiceExpr.parse? value = none ∧ threshold = .unresolved sign value) ∨
      ∃ expr rolled amount, DiceExpr.parse? value = some expr ∧
        (evaluate expr).run faces = (.ok (rolled, amount), rest) ∧
        threshold = if expr.isFixed then .ofAmount sign amount
          else (Threshold.ofAmount sign amount).rolledFrom value (rolled.text limit) := by
  unfold Engine.threshold at done
  cases reads : DiceExpr.parse? value with
  | none =>
    simp only [reads] at done
    cases done
    exact .inl ⟨rfl, rfl⟩
  | some expr =>
    simp only [reads] at done
    obtain ⟨⟨rolled, amount⟩, mid, evaluated, done⟩ := bind_run_eq_ok done
    cases done
    exact .inr ⟨expr, rolled, amount, rfl, evaluated, rfl⟩

theorem comparator_run_eq_ok {raw : Text} {comparator : Comparator}
    (done : (Engine.comparator limit raw).run faces = (.ok comparator, rest)) :
    ∃ clause primary mid, Clause.parse? raw = some clause ∧
      (Engine.threshold limit clause.sign clause.value).run faces = (.ok primary, mid) ∧
      ((clause.opposition = none ∧ comparator = ⟨primary, []⟩) ∨
        ∃ other opposed, clause.opposition = some other ∧ comparator = ⟨primary, [opposed]⟩ ∧
          (Engine.threshold limit other.1 other.2).run mid = (.ok opposed, rest)) := by
  unfold Engine.comparator at done
  cases reads : Clause.parse? raw with
  | none =>
    simp only [reads] at done
    cases done
  | some clause =>
    simp only [reads] at done
    obtain ⟨primary, mid, first, done⟩ := bind_run_eq_ok done
    refine ⟨clause, primary, mid, rfl, first, ?_⟩
    cases opposition : clause.opposition with
    | none =>
      simp only [opposition] at done
      cases done
      exact .inl ⟨rfl, rfl⟩
    | some other =>
      simp only [opposition] at done
      obtain ⟨opposed, last, second, done⟩ := bind_run_eq_ok done
      cases done
      exact .inr ⟨other, opposed, rfl, rfl, second⟩

end Runs

def Meant (sign : Sign) (value : Text) (threshold : Threshold) : Prop :=
  threshold.sign = sign ∧ ∀ n, Denotes value n → -2147483648 < n.value → threshold.value = some n

theorem meant_of_threshold {limit : Option Nat} {sign : Sign} {value : Text} {threshold : Threshold}
    {faces rest : Faces}
    (done : (Engine.threshold limit sign value).run faces = (.ok threshold, rest)) :
    Meant sign value threshold := by
  rcases threshold_run_eq_ok done with ⟨reads, rfl⟩ | ⟨expr, rolled, amount, reads, evaluated, same⟩
  · refine ⟨rfl, fun n denotes _ => ?_⟩
    obtain ⟨⟨expr, read, _⟩, _⟩ := denotes
    rw [reads] at read
    cases read
  · obtain ⟨rolls, total⟩ := of_evaluate evaluated
    have values : threshold.sign = sign ∧ threshold.value = some amount := by
      rw [same]
      split <;> exact ⟨rfl, rfl⟩
    refine ⟨values.1, fun n denotes _ => ?_⟩
    obtain ⟨⟨other, read, dry⟩, value⟩ := denotes
    obtain rfl : expr = other := Option.some.inj (reads.symm.trans read)
    obtain ⟨same, rollsDry⟩ := DiceExpr.exists_roll_of_no_leaves dry
    obtain ⟨rfl, _⟩ : rolled = same ∧ rest = faces := by
      rw [rollsDry] at rolls
      cases rolls
      exact ⟨rfl, rfl⟩
    rw [arithmetic_of_no_leaves read dry rollsDry, total] at value
    exact values.2.trans value

/-- The comparator answers the clause threshold by threshold. -/
def Answers (comparator : Comparator) (clause : Clause) : Prop :=
  Meant clause.sign clause.value comparator.primary ∧
    List.Forall₂ (fun threshold part => Meant part.1 part.2 threshold) comparator.opposed
      clause.opposition.toList

theorem Meant.of_evaluated {sign : Sign} {value : Text} {threshold : Threshold}
    (meant : Meant sign (evaluateThreshold .arithmetic value) threshold) :
    Meant sign value threshold :=
  ⟨meant.1, fun n denotes above => meant.2 n (denotes_evaluateThreshold denotes above) above⟩

theorem Answers.of_evaluated {comparator : Comparator} {clause : Clause}
    (answers : Answers comparator (clause.evaluated .arithmetic)) : Answers comparator clause := by
  refine ⟨answers.1.of_evaluated, ?_⟩
  have opposed := answers.2
  cases same : clause.opposition with
  | none => simpa only [Clause.evaluated, same, Option.map_none] using opposed
  | some other =>
    simp only [Clause.evaluated, same, Option.map_some, Option.toList_some,
      List.forall₂_cons_right_iff] at opposed ⊢
    obtain ⟨threshold, others, meant, none, split⟩ := opposed
    exact ⟨threshold, others, meant.of_evaluated, none, split⟩

theorem answers_of_comparator {limit : Option Nat} {raw : Text} {comparator : Comparator}
    {faces rest : Faces} (done : (Engine.comparator limit raw).run faces = (.ok comparator, rest)) :
    ∃ clause, Clause.parse? raw = some clause ∧ Answers comparator clause := by
  obtain ⟨clause, primary, mid, reads, first, ⟨alone, rfl⟩ | ⟨other, opposed, both, rfl, second⟩⟩ :=
    comparator_run_eq_ok done
  · exact ⟨clause, reads, meant_of_threshold first, by rw [alone]; exact .nil⟩
  · refine ⟨clause, reads, meant_of_threshold first, ?_⟩
    rw [both]
    exact .cons (meant_of_threshold second) .nil

end Engine
end Tabletop
