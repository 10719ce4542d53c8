import Tabletop.Proofs.Composing.Thresholds

/-! Comparators that are evaluated. The text of a number evaluates to that number again, or, for the
least amount, to nothing, so what evaluation leaves is settled; and settled comparators are those
that evaluation does not change. -/
namespace Tabletop

variable {evaluator : Evaluator} {value comparator : Text} {clause : Clause}

namespace Evaluator

/-- No text of a number is taken for another number. -/
def Faithful (evaluator : Evaluator) : Prop := ∀ n m : Amount, evaluator n.text = some m → m = n

theorem arithmetic_of_unread {text : Text} (unread : DiceExpr.parse? text = none) :
    arithmetic text = none := by
  cases reads : DiceExpr.parse text with
  | error cause => simp only [arithmetic, Tabletop.arithmetic, reads, Except.toOption]
  | ok expr =>
    rw [DiceExpr.parse_eq_ok_iff_parse?.mp reads] at unread
    cases unread

theorem arithmetic_faithful : Faithful arithmetic := by
  intro n m reads
  by_cases above : -2147483648 < n.value
  · rw [(Amount.denotes_text above).2] at reads
    exact (Option.some.inj reads).symm
  · -- The least amount has no text as an expression, since its size is no number.
    have lower := n.lower
    have least : n.value = -2147483648 := by omega
    obtain rfl : n = ⟨-2147483648, by decide, by decide⟩ := Amount.ext least
    have unread : DiceExpr.parse? (Amount.text ⟨-2147483648, by decide, by decide⟩) = none := by
      decide +kernel
    rw [arithmetic_of_unread unread] at reads
    cases reads

/-- Nothing is left to evaluate: the threshold holds dice, or it is the text of its number if it has
one. -/
def Settles (evaluator : Evaluator) (value : Text) : Prop :=
  holdsDiceTerm value = true ∨ ∀ n, evaluator value = some n → value = n.text

theorem evaluateThreshold_eq_self_iff :
    evaluateThreshold evaluator value = value ↔ evaluator.Settles value := by
  unfold evaluateThreshold Settles
  cases dice : holdsDiceTerm value with
  | true => simp
  | false => cases evaluator value <;> simp [eq_comm]

theorem Faithful.settles_evaluateThreshold (faithful : evaluator.Faithful) (value : Text) :
    evaluator.Settles (evaluateThreshold evaluator value) := by
  unfold evaluateThreshold
  split
  · next dice => exact .inl dice
  · split
    · next n _ => exact .inr fun m reads => congrArg Amount.text (faithful n m reads).symm
    · next refused =>
      refine .inr fun n reads => ?_
      rw [refused] at reads
      cases reads

end Evaluator

namespace Clause

structure Settled (evaluator : Evaluator) (clause : Clause) : Prop where
  value : evaluator.Settles clause.value
  opposition : ∀ sign value, clause.opposition = some (sign, value) → evaluator.Settles value

theorem evaluated_eq_self_iff : clause.evaluated evaluator = clause ↔ clause.Settled evaluator := by
  obtain ⟨sign, value, opposition⟩ := clause
  constructor
  · intro same
    injection same with _ first second
    refine ⟨Evaluator.evaluateThreshold_eq_self_iff.mp first, ?_⟩
    rintro other opposed rfl
    injection second with second
    exact Evaluator.evaluateThreshold_eq_self_iff.mp (Prod.mk.inj second).2
  · rintro ⟨first, second⟩
    have kept := Evaluator.evaluateThreshold_eq_self_iff.mpr first
    cases opposition with
    | none => simp only [evaluated, kept, Option.map_none]
    | some other =>
      have opposed := Evaluator.evaluateThreshold_eq_self_iff.mpr (second other.1 other.2 rfl)
      simp only [evaluated, kept, Option.map_some, opposed]

theorem settled_evaluated (faithful : evaluator.Faithful) (clause : Clause) :
    (clause.evaluated evaluator).Settled evaluator where
  value := faithful.settles_evaluateThreshold clause.value
  opposition sign value same := by
    obtain ⟨⟨other, opposed⟩, _, rest⟩ := Option.map_eq_some_iff.mp same
    cases rest
    exact faithful.settles_evaluateThreshold opposed

end Clause

namespace Comparator

structure Settled (evaluator : Evaluator) (comparator : Text) : Prop where
  trimmed : comparator.trim = comparator
  clause : ∀ clause, Clause.parse? comparator = some clause →
    clause.text = comparator ∧ clause.Settled evaluator

theorem parse?_evaluateComparator (evaluator : Evaluator) (comparator : Text) :
    Clause.parse? (evaluateComparator evaluator comparator) =
      (Clause.parse? comparator).map (Clause.evaluated evaluator) := by
  cases reads : Clause.parse? comparator with
  | none => simp only [evaluateComparator, reads, Clause.parse?_trim, Option.map_none]
  | some clause =>
    rw [evaluateComparator_eq reads, Option.map_some]
    exact Clause.parse?_text ((Clause.sound_of_parse? reads).evaluated evaluator)

theorem evaluateComparator_eq_self_iff :
    evaluateComparator evaluator comparator = comparator ↔ Settled evaluator comparator := by
  constructor
  · intro same
    have trimmed := trim_evaluateComparator evaluator comparator
    rw [same] at trimmed
    refine ⟨trimmed, fun clause reads => ?_⟩
    have kept := parse?_evaluateComparator evaluator comparator
    rw [same, reads, Option.map_some, Option.some.injEq] at kept
    have spelled : evaluateComparator evaluator comparator = (clause.evaluated evaluator).text :=
      evaluateComparator_eq reads
    rw [same, ← kept] at spelled
    exact ⟨spelled.symm, Clause.evaluated_eq_self_iff.mp kept.symm⟩
  · intro settled
    cases reads : Clause.parse? comparator with
    | none => simp only [evaluateComparator, reads, settled.trimmed]
    | some clause =>
      obtain ⟨spelled, kept⟩ := settled.clause clause reads
      rw [evaluateComparator_eq reads, Clause.evaluated_eq_self_iff.mpr kept, spelled]

theorem settled_evaluateComparator (faithful : evaluator.Faithful) (comparator : Text) :
    Settled evaluator (evaluateComparator evaluator comparator) where
  trimmed := trim_evaluateComparator evaluator comparator
  clause := by
    intro clause reads
    rw [parse?_evaluateComparator, Option.map_eq_some_iff] at reads
    obtain ⟨written, reads, rfl⟩ := reads
    exact ⟨(evaluateComparator_eq reads).symm, Clause.settled_evaluated faithful written⟩

/-- Evaluating a comparator again changes nothing, since the first time leaves nothing to evaluate:
a clause stays one, with its thresholds evaluated, and any other text stays none. -/
theorem evaluateComparator_evaluateComparator (comparator : Text) :
    evaluateComparator .arithmetic (evaluateComparator .arithmetic comparator) =
        evaluateComparator .arithmetic comparator ∧
      Clause.parse? (evaluateComparator .arithmetic comparator) =
        (Clause.parse? comparator).map (Clause.evaluated .arithmetic) ∧
      Settled .arithmetic (evaluateComparator .arithmetic comparator) := by
  have settled := settled_evaluateComparator Evaluator.arithmetic_faithful comparator
  exact ⟨evaluateComparator_eq_self_iff.mpr settled,
    parse?_evaluateComparator .arithmetic comparator, settled⟩

example : evaluateComparator .arithmetic "> -2147483647 - 1 <= 5/0 ".toList =
    ">-2147483648<=5/0".toList := by
  decide +kernel

end Comparator
end Tabletop
