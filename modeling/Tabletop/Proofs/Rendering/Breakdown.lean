import Tabletop.Proofs.Brackets
import Tabletop.Proofs.Rendering.OneLine
import Tabletop.Proofs.Resolving.Substitution
import Tabletop.Proofs.Rolling.Conservation
import Tabletop.Proofs.Rolling.Faces

/-! Rolled expressions written out. A roll exchanges the dice of an expression for rolled sets and
keeps its shape, and a rolled set is written as its dice with a list in brackets behind them. -/
namespace Tabletop

namespace Expr

variable {Leaf Other : Type}

def map (exchange : Leaf → Other) : Expr Leaf → Expr Other
  | number n => number n
  | leaf x => leaf (exchange x)
  | neg e => neg (e.map exchange)
  | binary op a b => binary op (a.map exchange) (b.map exchange)

@[simp] theorem rootOp?_map (exchange : Leaf → Other) (e : Expr Leaf) :
    (e.map exchange).rootOp? = e.rootOp? := by
  cases e <;> rfl

@[simp] theorem isAtom_map (exchange : Leaf → Other) (e : Expr Leaf) :
    (e.map exchange).isAtom = e.isAtom := by
  cases e <;> rfl

theorem text_map (exchange : Leaf → Other) (leafText : Other → Text) (e : Expr Leaf) :
    (e.map exchange).text leafText = e.text fun x => leafText (exchange x) := by
  induction e with
  | number n => rfl
  | leaf x => rfl
  | neg e ih => simp only [map, text, isAtom_map, ih]
  | binary op a b left right => simp only [map, text, rootOp?_map, left, right]

end Expr

theorem DiceExpr.map_dice_of_roll {expr : DiceExpr} {faces rest : Faces} {rolled : RolledExpr}
    (done : expr.roll.run faces = (.ok rolled, rest)) : rolled.map Rolled.dice = expr := by
  unfold roll at done
  induction expr generalizing faces rest rolled with
  | number n =>
    cases done
    rfl
  | leaf dice =>
    obtain ⟨set, mid, rolls, last⟩ := bind_run_eq_ok done
    cases last
    exact congrArg Expr.leaf (Dice.roll_whole rolls).1
  | neg e ih =>
    obtain ⟨operand, mid, rolls, last⟩ := bind_run_eq_ok done
    cases last
    exact congrArg Expr.neg (ih rolls)
  | binary op a b left right =>
    obtain ⟨first, mid, rolls, done⟩ := bind_run_eq_ok done
    obtain ⟨second, final, others, last⟩ := bind_run_eq_ok done
    cases last
    exact congrArg₂ (Expr.binary op) (left rolls) (right others)

namespace Rolled

variable {rolled : Rolled}

def entries (limit : Option Nat) (rolled : Rolled) : List Text :=
  let shown := min (limit.getD rolled.rolls.length) rolled.rolls.length
  (rolled.rolls.take shown).map Die.text ++
    if shown < rolled.rolls.length then [Text.ofNat (rolled.rolls.length - shown) ++ " more..."]
    else []

theorem list_of_whole {limit : Option Nat}
    (whole : rolled.rolls.length ≤ limit.getD rolled.rolls.length) :
    rolled.list limit = Text.joined [',', ' '] (rolled.entries limit) := by
  simp [list, entries, List.take_of_length_le whole, whole]

theorem list_of_cut {limit : Nat} (cut : limit < rolled.rolls.length) :
    rolled.list (some limit) =
      (if limit = 0 then [',', ' '] else []) ++
        Text.joined [',', ' '] (rolled.entries (some limit)) := by
  have short : min limit rolled.rolls.length = limit := Nat.min_eq_left (Nat.le_of_lt cut)
  have left : 0 < rolled.rolls.length - limit := by omega
  simp only [list, entries, Option.getD_some, List.length_take, short, if_pos left, if_pos cut]
  by_cases none : limit = 0
  · simp [none, Text.joined]
  · have shown : (rolled.rolls.take limit).map Die.text ≠ [] := by
      apply List.ne_nil_of_length_pos
      rw [List.length_map, List.length_take]
      omega
    simp only [none, if_false, List.nil_append, Text.joined_append shown (List.cons_ne_nil _ []),
      Text.joined_singleton, List.append_assoc]

/-- The text of a rolled set accounts for every die: its list has the dice up to the limit and the
number of the others. Where the limit leaves no die before that number, the list starts with a
comma. -/
theorem text_entries (limit : Option Nat) (rolled : Rolled) :
    rolled.text limit = rolled.dice.text ++
      '[' :: ((if limit = some 0 ∧ rolled.rolls ≠ [] then [',', ' '] else []) ++
        (Text.joined [',', ' '] (rolled.entries limit) ++ [']'])) := by
  rw [text_eq, ← List.append_assoc]
  by_cases whole : rolled.rolls.length ≤ limit.getD rolled.rolls.length
  · have unmarked : ¬ (limit = some 0 ∧ rolled.rolls ≠ []) := by
      rintro ⟨rfl, some⟩
      exact some (List.eq_nil_of_length_eq_zero (Nat.le_zero.mp whole))
    rw [list_of_whole whole, if_neg unmarked, List.nil_append]
  · cases limit with
    | none => exact absurd (Nat.le_refl _) whole
    | some limit =>
      have cut : limit < rolled.rolls.length := Nat.lt_of_not_le whole
      have some : rolled.rolls ≠ [] := List.ne_nil_of_length_pos (Nat.zero_lt_of_lt cut)
      rw [list_of_cut cut]
      simp only [Option.some.injEq, some, ne_eq, not_false_eq_true, and_true]

/-- Up to no die at all, the list of two dice is one entry with a comma before it. -/
theorem text_ne_joined_entries :
    let rolled := ofFaces ⟨2, 6, []⟩ [3, 4]
    rolled.text (some 0) ≠
      rolled.dice.text ++ '[' :: (Text.joined [',', ' '] (rolled.entries (some 0)) ++ [']']) := by
  decide +kernel

end Rolled

theorem bracket_opens : bracket.OpensWith '[' := by
  intro text inner rest reads
  obtain ⟨rfl, unopened, _⟩ := bracket_eq_some_iff.mp reads
  exact ⟨inner ++ [']'], by simp, by simp [unopened]⟩

theorem Rolled.startsOperand_text (limit : Option Nat) (rolled : Rolled) :
    StartsOperand (rolled.text limit) := by
  obtain ⟨c, cs, first, facts⟩ := rolled.dice.startsOperand_text
  exact ⟨c, _, by rw [text_eq, first, List.cons_append], facts⟩

theorem Rolled.passes_text (limit : Option Nat) (rolled : Rolled) :
    Passes bracket (fun _ _ => []) (rolled.text limit) rolled.dice.text := by
  have dice : '[' ∉ rolled.dice.text := Text.not_mem_of_all rolled.dice.diceMarks_text (by decide)
  have unopened : '[' ∉ rolled.list limit := rolled.not_mem_list (by decide) (by decide) limit
  have unclosed : ']' ∉ rolled.list limit := rolled.not_mem_list (by decide) (by decide) limit
  intro tail _
  have reads :
      bracket ('[' :: (rolled.list limit ++ [']']) ++ tail) = some (rolled.list limit, tail) :=
    bracket_eq_some_iff.mpr ⟨by simp, unopened, unclosed⟩
  calc bracket.substituted (fun _ _ => []) (rolled.text limit ++ tail)
    _ = rolled.dice.text ++
        bracket.substituted (fun _ _ => []) ('[' :: (rolled.list limit ++ [']']) ++ tail) := by
      rw [text_eq, List.append_assoc, bracket_opens.substituted_append dice]
    _ = rolled.dice.text ++ bracket.substituted (fun _ _ => []) tail := by
      rw [Reader.substituted_of_reads (List.cons_ne_nil _ _) reads, List.nil_append]

theorem RolledExpr.erased_text (limit : Option Nat) (rolled : RolledExpr) :
    bracket.erased (rolled.text limit) = (rolled.map Rolled.dice).text Dice.text := by
  have passes : Passes bracket (fun _ _ => []) (rolled.text limit)
      (Expr.text (fun set => set.dice.text) rolled) :=
    Tabletop.passes_text bracket_opens (by decide) (by decide)
      (fun text _ => bracket_opens.of_ne (by decide) text)
      (fun set _ => set.startsOperand_text limit) fun set _ => set.passes_text limit
  rw [Expr.text_map]
  exact passes.whole

/-- The breakdown shows what was rolled: without its lists in brackets it is the text of the
expression, for every face source and however long the lists may be. -/
theorem DiceExpr.erased_breakdown {expr : DiceExpr} {faces rest : Faces} {rolled : RolledExpr}
    (done : expr.roll.run faces = (.ok rolled, rest)) (limit : Option Nat) :
    bracket.erased (rolled.text limit) = expr.text := by
  rw [rolled.erased_text limit, map_dice_of_roll done, text]

theorem DiceExpr.erased_breakdown_cut :
    let first : Dice := ⟨3, 6, [.explode none false, .maximum 5]⟩
    let second : Dice := ⟨1, 4, [.minimum 3]⟩
    let expr : DiceExpr :=
      .binary .mul (.neg (.binary .sub (.leaf first) (.number ⟨-2, by decide, by decide⟩)))
      (.binary .add (.leaf second) (.leaf ⟨0, 8, []⟩))
    ∃ rolled : RolledExpr,
      expr.roll.run (.queue [6, 2, 5, 4, 1]) = (.ok rolled, .queue []) ∧
      rolled.text (some 1) =
        "-(3d6xomax5[5 (m), 3 more...] - -2) * (1d4min3[3 (m)] + 0d8[])".toList ∧
      expr.text = "-(3d6xomax5 - -2) * (1d4min3 + 0d8)".toList ∧
      bracket.erased (rolled.text (some 1)) = expr.text := by
  intro first second expr
  have rolls : expr.roll.run (.queue [6, 2, 5, 4, 1]) = (.ok _, .queue []) := rfl
  exact ⟨_, rolls, by decide +kernel, by decide +kernel, erased_breakdown rolls (some 1)⟩

end Tabletop
