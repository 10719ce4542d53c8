import Tabletop.Expr.Basic
import Tabletop.Text.LetterCase

/-! Texts that are their own lower case. All that is written out for dice and expressions is of this
kind, so a reader that puts its text into lower case first sees it as it is. -/
namespace Tabletop

def isPlain (c : Char) : Bool := c.toNat < 128 && c.toLower == c

def Text.Plain (text : Text) : Prop := ∀ c ∈ text, isPlain c = true

namespace Text

theorem lowerAfter_of_plain {text : Text} (plain : text.Plain) :
    ∀ before : Text, lowerAfter before text = text := by
  induction text with
  | nil => exact fun _ => rfl
  | cons c cs ih =>
    intro before
    have first : isPlain c = true := plain c List.mem_cons_self
    have notSigma : c ≠ 'Σ' := by
      rintro rfl
      contradiction
    have others := ih (fun d member => plain d (List.mem_cons_of_mem c member)) (c :: before)
    simp only [isPlain, Bool.and_eq_true, decide_eq_true_eq, beq_iff_eq] at first
    simp only [lowerAfter, beq_iff_eq, notSigma, if_false, lowerChar, first.1, if_true, first.2,
      others, List.singleton_append]

theorem lowercase_of_plain {text : Text} (plain : text.Plain) : text.lowercase = text :=
  lowerAfter_of_plain plain []

theorem plain_of_isDigit {c : Char} (digit : c.isDigit = true) : isPlain c = true := by
  have bounds : '0'.toNat ≤ c.toNat ∧ c.toNat ≤ '9'.toNat := Char.isDigit_iff_toNat.mp digit
  have code : c.val.toNat = c.toNat := Char.toNat_val
  have notCapital : ¬ (c.val ≥ 'A'.val ∧ c.val ≤ 'Z'.val) := by
    rintro ⟨lower, _⟩
    have lower : 'A'.val.toNat ≤ c.val.toNat := UInt32.le_iff_toNat_le.mp lower
    have : '9'.toNat < 'A'.val.toNat := by decide
    omega
  have same : c.toLower = c := by
    unfold Char.toLower
    rw [dif_neg notCapital]
  have small : '9'.toNat < 128 := by decide
  simp only [isPlain, same, Bool.and_eq_true, decide_eq_true_eq, beq_self_eq_true, and_true]
  omega

theorem plain_ofNat (n : Nat) : (ofNat n).Plain :=
  fun _ member => plain_of_isDigit (isDigit_of_mem_ofNat member)

theorem Plain.append {s t : Text} (first : s.Plain) (second : t.Plain) : Text.Plain (s ++ t) := by
  intro c member
  rcases List.mem_append.mp member with member | member
  · exact first c member
  · exact second c member

theorem Plain.cons {c : Char} {text : Text} (first : isPlain c = true) (others : text.Plain) :
    Text.Plain (c :: text) := by
  intro d member
  rcases List.mem_cons.mp member with rfl | member
  · exact first
  · exact others d member

theorem plain_nil : Text.Plain [] := fun _ member => absurd member List.not_mem_nil

end Text

def diceLetters : List Char :=
  ['d', 'r', 'x', 'o', 'k', 'h', 'l', 'm', 'i', 'n', 'a', '<', '>', '=', '!']

def isDiceMark (c : Char) : Bool := c.isDigit || diceLetters.contains c

theorem isPlain_of_isDiceMark {c : Char} (mark : isDiceMark c = true) : isPlain c = true := by
  rcases Bool.or_eq_true_iff.mp mark with digit | letter
  · exact Text.plain_of_isDigit digit
  · have letters : diceLetters.all isPlain = true := by decide
    exact List.all_eq_true.mp letters c (List.contains_iff_mem.mp letter)

theorem diceMarks_ofNat (n : Nat) : (Text.ofNat n).all isDiceMark = true := by
  apply List.all_eq_true.mpr
  intro c member
  have digit := Text.isDigit_of_mem_ofNat member
  simp [isDiceMark, digit]

namespace Condition

theorem diceMarks_text (condition : Condition) : condition.text.all isDiceMark = true := by
  have sign : ∀ sign : Sign, sign.symbol.all isDiceMark = true := by
    intro sign
    cases sign <;> decide
  rw [text, List.all_append, sign, diceMarks_ofNat, Bool.and_self]

theorem diceMarks_textAfter (usual : Sign) (condition : Condition) :
    (condition.textAfter usual).all isDiceMark = true := by
  unfold textAfter
  split
  · exact diceMarks_ofNat _
  · exact condition.diceMarks_text

end Condition

theorem diceMarks_keptCount (count : UInt8) : (keptCount count).all isDiceMark = true := by
  unfold keptCount
  split
  · exact diceMarks_ofNat _
  · rfl

theorem Modifier.diceMarks_text (modifier : Modifier) : modifier.text.all isDiceMark = true := by
  cases modifier with
  | reroll condition recurse =>
    rw [text, List.all_append, condition.diceMarks_textAfter]
    cases recurse <;> decide
  | explode condition recurse =>
    cases condition with
    | none => cases recurse <;> decide
    | some condition =>
      rw [text, List.all_append, condition.diceMarks_textAfter]
      cases recurse <;> decide
  | keepHigh count | keepLow count =>
    rw [text, List.all_append, diceMarks_keptCount]
    decide
  | minimum bound | maximum bound =>
    rw [text, List.all_append, diceMarks_ofNat]
    decide

theorem Dice.diceMarks_text (dice : Dice) : dice.text.all isDiceMark = true := by
  have modifiers : (dice.modifiers.flatMap Modifier.text).all isDiceMark = true := by
    rw [List.all_flatMap, List.all_eq_true]
    exact fun modifier _ => modifier.diceMarks_text
  rw [text, List.all_append, List.all_append, List.all_cons, diceMarks_ofNat, diceMarks_ofNat,
    modifiers]
  decide

theorem Dice.plain_text (dice : Dice) : dice.text.Plain := fun c member =>
  isPlain_of_isDiceMark (List.all_eq_true.mp dice.diceMarks_text c member)

theorem Amount.plain_text (n : Amount) : n.text.Plain := by
  unfold Amount.text Text.ofInt
  split
  · exact Text.plain_ofNat _
  · exact .cons (by decide) (Text.plain_ofNat _)

theorem Expr.plain_grouped {text : Text} (plain : text.Plain) : (grouped text).Plain :=
  .append (.cons (by decide) plain) (.cons (by decide) Text.plain_nil)

theorem Expr.plain_text {Leaf : Type} {leafText : Leaf → Text} {e : Expr Leaf}
    (leaves : ∀ x ∈ e.leaves, (leafText x).Plain) : (e.text leafText).Plain := by
  induction e with
  | number n => exact n.plain_text
  | leaf x => exact leaves x List.mem_cons_self
  | neg e ih =>
    refine .cons (by decide) ?_
    split
    · exact ih leaves
    · exact plain_grouped (ih leaves)
  | binary op a b ihA ihB =>
    have left := ihA fun x member => leaves x (List.mem_append_left _ member)
    have right := ihB fun x member => leaves x (List.mem_append_right _ member)
    refine Text.Plain.append ?_ (.cons (by decide) (.cons ?_ (.cons (by decide) ?_)))
    · split
      · exact plain_grouped left
      · exact left
    · cases op <;> decide
    · split
      · exact plain_grouped right
      · exact right

theorem DiceExpr.plain_text (e : DiceExpr) : e.text.Plain :=
  Expr.plain_text fun d _ => d.plain_text

theorem DiceExpr.lowercase_text (e : DiceExpr) : e.text.lowercase = e.text :=
  Text.lowercase_of_plain e.plain_text

end Tabletop
