import Tabletop.Expr.Total
import Tabletop.Language
import Tabletop.Proofs.Composing.Fragments
import Tabletop.Proofs.Composing.Resolving

/-! Texts on one line. What is printed of numbers, dice and their rolls has no line feed, and
neither has a phrase whose parameters have none. -/
namespace Tabletop

namespace Text

def OneLine (text : Text) : Prop := '\n' ∉ text

instance (text : Text) : Decidable text.OneLine := inferInstanceAs (Decidable ('\n' ∉ text))

@[simp] theorem oneLine_nil : OneLine [] := List.not_mem_nil

@[simp] theorem oneLine_cons_iff {c : Char} {text : Text} :
    OneLine (c :: text) ↔ c ≠ '\n' ∧ OneLine text := by
  simp [OneLine, eq_comm]

@[simp] theorem oneLine_append_iff {text other : Text} :
    OneLine (text ++ other) ↔ OneLine text ∧ OneLine other := by
  simp [OneLine]

variable {text : Text}

theorem OneLine.of_subset {part : Text} (clean : text.OneLine) (subset : part ⊆ text) :
    part.OneLine :=
  fun member => clean (subset member)

theorem OneLine.trim (clean : text.OneLine) : text.trim.OneLine := not_mem_trim clean

theorem OneLine.trimEnd (clean : text.OneLine) : text.trimEnd.OneLine :=
  fun member => clean (mem_of_mem_trimEnd member)

theorem not_mem_joined {m : Char} {separator : Text} (apart : m ∉ separator) {parts : List Text}
    (clean : ∀ part ∈ parts, m ∉ part) : m ∉ joined separator parts := by
  induction parts with
  | nil => exact List.not_mem_nil
  | cons part parts ih =>
    cases parts with
    | nil => simpa [joined] using clean
    | cons next others =>
      have later := ih fun part member => clean part (List.mem_cons_of_mem _ member)
      rw [joined, List.intercalate_cons_cons, List.mem_append, List.mem_append, not_or, not_or]
      exact ⟨⟨clean part List.mem_cons_self, apart⟩, later⟩

theorem oneLine_joined {separator : Text} (apart : separator.OneLine) {parts : List Text}
    (clean : ∀ part ∈ parts, part.OneLine) : (joined separator parts).OneLine :=
  not_mem_joined apart clean

theorem oneLine_collapsed (text : Text) : text.collapsed.OneLine := by
  induction text with
  | nil => exact oneLine_nil
  | cons c cs ih =>
    unfold collapsed
    split
    · split
      · exact ih
      · exact oneLine_cons_iff.mpr ⟨by decide, ih⟩
    · next visible =>
      have other : c ≠ '\n' := by
        rintro rfl
        exact visible (by decide)
      exact oneLine_cons_iff.mpr ⟨other, ih⟩

theorem mem_or_of_mem_replacedGo {part new : Text} {c : Char} (covered : Nat)
    (member : c ∈ replaced.go part new covered text) : c ∈ text ∨ c ∈ new := by
  induction text generalizing covered with
  | nil => cases member
  | cons d ds ih =>
    cases covered with
    | succ n => exact (ih n member).imp_left (List.mem_cons_of_mem d)
    | zero =>
      unfold replaced.go at member
      dsimp only at member
      split at member
      · rcases List.mem_append.mp member with fresh | later
        · exact .inr fresh
        · exact (ih _ later).imp_left (List.mem_cons_of_mem d)
      · rcases List.mem_cons.mp member with rfl | later
        · exact .inl List.mem_cons_self
        · exact (ih 0 later).imp_left (List.mem_cons_of_mem d)

theorem oneLine_of_mem_splitOn {line : Text} (member : line ∈ text.splitOn '\n') :
    line.OneLine := by
  induction text generalizing line with
  | nil =>
    obtain rfl := List.mem_singleton.mp member
    exact oneLine_nil
  | cons c cs ih =>
    rw [List.splitOn_cons_eq_if_modifyHead] at member
    split at member
    · rcases List.mem_cons.mp member with rfl | later
      · exact oneLine_nil
      · exact ih later
    · next other =>
      obtain ⟨first, others, split⟩ := List.exists_cons_of_ne_nil (List.splitOn_ne_nil '\n' cs)
      rw [split] at member ih
      rcases List.mem_cons.mp member with rfl | later
      · exact oneLine_cons_iff.mpr ⟨by simpa using other, ih List.mem_cons_self⟩
      · exact ih (List.mem_cons_of_mem first later)

theorem splitOn_joined_iff {lines : List Text} (some : lines ≠ []) :
    (joined ['\n'] lines).splitOn '\n' = lines ↔ ∀ line ∈ lines, line.OneLine :=
  ⟨fun same _ member => oneLine_of_mem_splitOn (same ▸ member),
    fun clean => List.splitOn_intercalate '\n' clean some⟩

end Text

theorem Text.not_mem_ofNat {m : Char} (digitless : m.isDigit = false) (n : Nat) :
    m ∉ Text.ofNat n := by
  intro member
  rw [Text.isDigit_of_mem_ofNat member] at digitless
  contradiction

theorem Amount.oneLine_text (n : Amount) : n.text.OneLine := n.not_mem_text (by decide)

theorem Amount.oneLine_operand (n : Amount) : n.operand.OneLine := n.not_mem_operand (by decide)

theorem Dice.oneLine_text (dice : Dice) : dice.text.OneLine :=
  Text.not_mem_of_all dice.diceMarks_text (by decide)

theorem Die.not_mem_text {m : Char} (digitless : m.isDigit = false)
    (foreign : m ∉ [' ', '(', 'm', 'd', ')']) (die : Die) : m ∉ die.text := by
  simp only [List.mem_cons, List.not_mem_nil, or_false, not_or] at foreign
  unfold text
  split <;> split <;> simp [Text.not_mem_ofNat digitless, foreign]

namespace Rolled

def list (limit : Option Nat) (rolled : Rolled) : Text :=
  let shown := rolled.rolls.take (limit.getD rolled.rolls.length)
  let hidden := rolled.rolls.length - shown.length
  Text.joined [',', ' '] (shown.map Die.text) ++
    if 0 < hidden then [',', ' '] ++ Text.ofNat hidden ++ " more..." else []

theorem text_eq (limit : Option Nat) (rolled : Rolled) :
    rolled.text limit = rolled.dice.text ++ '[' :: (rolled.list limit ++ [']']) := by
  simp only [text, list, List.append_assoc, List.cons_append]

theorem not_mem_list {m : Char} (digitless : m.isDigit = false)
    (foreign : m ∉ [' ', '(', 'm', 'd', ')', ',', 'o', 'r', 'e', '.']) (limit : Option Nat)
    (rolled : Rolled) : m ∉ rolled.list limit := by
  simp only [List.mem_cons, List.not_mem_nil, or_false, not_or] at foreign
  intro member
  rcases List.mem_append.mp member with shown | counted
  · refine Text.not_mem_joined (by simp [foreign]) (fun part member => ?_) shown
    obtain ⟨die, _, rfl⟩ := List.mem_map.mp member
    exact die.not_mem_text digitless (by simp [foreign])
  · split at counted
    · simp [foreign, Text.not_mem_ofNat digitless] at counted
    · cases counted

end Rolled

theorem Rolled.oneLine_text (limit : Option Nat) (rolled : Rolled) :
    (rolled.text limit).OneLine := by
  have list : (rolled.list limit).OneLine := rolled.not_mem_list (by decide) (by decide) limit
  simp [text_eq, rolled.dice.oneLine_text, list]

theorem Op.symbol_ne_lineFeed (op : Op) : op.symbol ≠ '\n' := by cases op <;> decide

theorem Expr.oneLine_text {Leaf : Type} {leafText : Leaf → Text}
    (clean : ∀ leaf, (leafText leaf).OneLine)
    (expr : Expr Leaf) : (expr.text leafText).OneLine := by
  induction expr with
  | number n => exact n.oneLine_text
  | leaf leaf => exact clean leaf
  | neg e ih =>
    unfold text
    split <;> simp [ih, grouped]
  | binary op a b left right =>
    unfold text
    dsimp only
    split <;> split <;> simp [left, right, grouped, Op.symbol_ne_lineFeed]

theorem RolledExpr.oneLine_text (limit : Option Nat) (expr : RolledExpr) :
    (expr.text limit).OneLine :=
  Expr.oneLine_text (Rolled.oneLine_text limit) expr

namespace Language

theorem oneLine_filled {parameters : List (Text × Text)}
    (values : ∀ parameter ∈ parameters, parameter.2.OneLine)
    {text : Text} (clean : text.OneLine) : (filled parameters text).OneLine := by
  unfold filled
  induction parameters generalizing text with
  | nil => exact clean
  | cons parameter parameters ih =>
    rw [List.foldl_cons]
    refine ih (fun other member => values other (List.mem_cons_of_mem _ member)) fun member => ?_
    rcases Text.mem_or_of_mem_replacedGo 0 member with before | value
    · exact clean before
    · exact values parameter List.mem_cons_self value

theorem oneLine_say (language : Language) (phrase : Phrase) {parameters : List (Text × Text)}
    (values : ∀ parameter ∈ parameters, parameter.2.OneLine) :
    (language.say phrase parameters).OneLine := by
  refine oneLine_filled values ?_
  cases language <;> cases phrase <;> decide

end Language
end Tabletop
