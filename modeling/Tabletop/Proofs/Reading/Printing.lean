import Tabletop.Proofs.Reading.Expression
import Tabletop.Proofs.Reading.Plain

/-! Expressions written out. The parentheses of the printer put every operand on the level that its
place in a sentence asks for, so reading the text gives the expression back. -/
namespace Tabletop

namespace Text

theorem head_ofNat_ne_zero {n : Nat} (positive : 0 < n) : (ofNat n).head? ≠ some '0' := by
  induction n using Nat.strong_induction_on with
  | _ n ih =>
    unfold ofNat
    rw [Nat.toDigits_eq_if (by decide)]
    split
    · simp [positive.ne']
    · rename_i large
      have shorter := ih (n / 10) (by omega) (by omega)
      rw [List.head?_append_of_ne_nil _ Nat.toDigits_ne_nil]
      exact shorter

theorem numeral_ofNat (n : Nat) : Numeral (ofNat n) := by
  rcases Nat.eq_zero_or_pos n with rfl | positive
  · exact .zero
  · have first := head_ofNat_ne_zero positive
    have digits : ∀ c ∈ ofNat n, c.isDigit = true := fun c member => isDigit_of_mem_ofNat member
    cases shape : ofNat n with
    | nil => exact absurd shape (ofNat_ne_nil n)
    | cons c cs =>
      rw [shape] at first digits
      exact .digits (fun zero => first (congrArg some zero)) digits

end Text

theorem Spaced.operator (op : Op) : Spaced [op.symbol] [' ', op.symbol, ' '] :=
  ⟨[' '], [' '], rfl, rfl, rfl⟩

namespace Sentence

theorem grouped {text : Text} {e : DiceExpr} (sentence : Sentence .sum text e) :
    Sentence .atom (Expr.grouped text) e :=
  .group sentence (.refl _)

theorem toSum {level : Level} {text : Text} {e : DiceExpr} (sentence : Sentence level text e) :
    Sentence .sum text e := by
  cases level with
  | sum => exact sentence
  | product => exact .ofProduct sentence
  | unary => exact .ofProduct (.ofUnary sentence)
  | atom => exact .ofProduct (.ofUnary (.ofAtom sentence))

end Sentence

/-- The expressions that dice notation can spell: no number is negative, and the text of every dice
term is read as that term. -/
inductive Writable : DiceExpr → Prop where
  | number {n : Amount} : 0 ≤ n.value → Writable (.number n)
  | leaf {d : Dice} : Dice.parse d.text = .ok d → Writable (.leaf d)
  | neg {e : DiceExpr} : Writable e → Writable (.neg e)
  | binary {op : Op} {a b : DiceExpr} : Writable a → Writable b → Writable (.binary op a b)

def Op.level (op : Op) : Level := if op.isMultiplicative then .product else .sum

theorem Op.level_of_additive {op : Op} (kind : op.isMultiplicative = false) : op.level = .sum := by
  simp [level, kind]

theorem Op.level_of_multiplicative {op : Op} (kind : op.isMultiplicative = true) :
    op.level = .product := by
  simp [level, kind]

def Expr.level {Leaf : Type} : Expr Leaf → Level
  | .number _ | .leaf _ => .atom
  | .neg _ => .unary
  | .binary op _ _ => op.level

theorem Sentence.binary {op : Op} {left right : Text} {a b : DiceExpr}
    (first : Sentence op.level left a) (second : Sentence .unary right b) :
    Sentence op.level (left ++ ' ' :: op.symbol :: ' ' :: right) (.binary op a b) := by
  cases kind : op.isMultiplicative with
  | false =>
    rw [Op.level_of_additive kind] at first ⊢
    exact .sum first kind (.operator op) (.ofUnary second)
  | true =>
    rw [Op.level_of_multiplicative kind] at first ⊢
    exact .product first kind (.operator op) second

theorem Dice.sentence_of_parse {d : Dice} (reads : Dice.parse d.text = .ok d) :
    Sentence .atom d.text (.leaf d) := by
  obtain ⟨core, term, spaced⟩ := Dice.parse_eq_ok_iff_term.mp reads
  rw [Text.lowercase_of_plain d.plain_text] at spaced
  exact .dice term spaced

namespace Expr

variable {Leaf : Type} {leafText : Leaf → Text} {d : DiceExpr}

theorem sentence_left {op : Op} {a : Expr Leaf} (sentence : Sentence a.level (a.text leafText) d) :
    Sentence op.level
      (if a.rootOp?.any fun child =>
        child.isMultiplicative != op.isMultiplicative then grouped (a.text leafText)
        else a.text leafText) d := by
  cases kind : op.isMultiplicative with
  | false =>
    rw [Op.level_of_additive kind]
    split
    · exact sentence.toSum.grouped.toSum
    · exact sentence.toSum
  | true =>
    rw [Op.level_of_multiplicative kind]
    cases a with
    | number n => exact .ofUnary (.ofAtom sentence)
    | leaf x => exact .ofUnary (.ofAtom sentence)
    | neg e => exact .ofUnary sentence
    | binary child a b =>
      cases childKind : child.isMultiplicative with
      | false =>
        simp only [rootOp?, Option.any_some, childKind, Bool.false_bne, if_true]
        exact .ofUnary (.ofAtom sentence.toSum.grouped)
      | true =>
        simp only [rootOp?, Option.any_some, childKind, bne_self_eq_false, Bool.false_eq_true,
          if_false]
        exact Op.level_of_multiplicative childKind ▸ sentence

theorem sentence_right {b : Expr Leaf} (sentence : Sentence b.level (b.text leafText) d) :
    Sentence .unary
      (if b.rootOp?.isSome then grouped (b.text leafText) else b.text leafText) d := by
  cases b with
  | number n => exact .ofAtom sentence
  | leaf x => exact .ofAtom sentence
  | neg e => exact sentence
  | binary op a b => exact .ofAtom sentence.toSum.grouped

theorem sentence_neg {e : Expr Leaf} (sentence : Sentence e.level (e.text leafText) d) :
    Sentence .unary (if e.isAtom then e.text leafText else grouped (e.text leafText)) d := by
  cases e with
  | number n => exact .ofAtom sentence
  | leaf x => exact .ofAtom sentence
  | neg e => exact .ofAtom sentence.toSum.grouped
  | binary op a b => exact .ofAtom sentence.toSum.grouped

end Expr

theorem Amount.sentence {n : Amount} (nonneg : 0 ≤ n.value) :
    Sentence .atom n.text (.number n) := by
  obtain ⟨k, value⟩ := Int.eq_ofNat_of_zero_le nonneg
  have text : n.text = Text.ofNat k := by
    rw [Amount.text, value]
    rfl
  rw [text]
  refine .number (Text.numeral_ofNat k) ?_ (.refl _)
  rw [Text.digitsValue_ofNat, value]

theorem Writable.sentence {e : DiceExpr} (writable : Writable e) : Sentence e.level e.text e := by
  induction writable with
  | number nonneg => exact Amount.sentence nonneg
  | leaf reads => exact Dice.sentence_of_parse reads
  | neg _ ih => exact .minus (.refl ['-']) (Expr.sentence_neg ih)
  | binary _ _ ihA ihB => exact .binary (Expr.sentence_left ihA) (Expr.sentence_right ihB)

/-- Reading what is written out for a writable expression gives the expression back. -/
theorem DiceExpr.parse_text {e : DiceExpr} (writable : Writable e) :
    DiceExpr.parse e.text = .ok e := by
  apply DiceExpr.parse_eq_ok_iff_parse?.mpr
  apply DiceExpr.parse?_of_sentence
  rw [e.lowercase_text]
  exact writable.sentence.toSum

theorem DiceExpr.parse_text_nested :
    let e : DiceExpr :=
      .binary .sub
        (.binary .mul (.neg (.binary .add (.leaf ⟨2, 6, [.reroll (.atMost 1) true, .keepHigh 1]⟩)
          (.number ⟨3, by decide, by decide⟩))) (.number ⟨4, by decide, by decide⟩))
        (.binary .sub (.number ⟨5, by decide, by decide⟩)
          (.neg (.neg (.number ⟨2, by decide, by decide⟩))))
    Writable e ∧ e.text = "(-(2d6rr1kh + 3) * 4) - (5 - -(-2))".toList ∧
      DiceExpr.parse e.text = .ok e := by
  intro e
  have writable : Writable e :=
    .binary (.binary (.neg (.binary (.leaf rfl) (.number (by decide)))) (.number (by decide)))
      (.binary (.number (by decide)) (.neg (.neg (.number (by decide)))))
  exact ⟨writable, by decide, DiceExpr.parse_text writable⟩

end Tabletop
