import Tabletop.Expr.Total
import Tabletop.Proofs.Rolling.Faces
import Tabletop.Proofs.Rolling.History

/-! Faces and dice. The dice of a rolled expression, from left to right, are exactly the faces that
were drawn for them, and in each set the dice that modifiers added stand behind the `count` original
ones. -/
namespace Tabletop

namespace Touched

variable {cause : Modifier}

theorem map_eq {Kept : Type} {keep : Die → Kept}
    (keeps : ∀ die later : Die, die.Continues later → keep later = keep die)
    {rolls after : List Die} (touched : List.Forall₂ (Touched cause) rolls after) :
    after.map keep = rolls.map keep := by
  induction touched with
  | nil => rfl
  | cons first _ ih => rw [List.map_cons, List.map_cons, keeps _ _ first.continues, ih]

end Touched

namespace Spread

variable {cause : Modifier} {rolls after : List Die} {drawn : List UInt8}

theorem naturals (spread : Spread cause rolls drawn after) :
    after.map Die.natural = rolls.map Die.natural ++ drawn := by
  rw [Touched.map_eq (fun _ _ continues => continues.natural) spread.touched, List.map_append,
    List.map_map]
  exact congrArg _ (List.map_id drawn)

theorem initials (spread : Spread cause rolls drawn after) :
    after.map Die.isInitial = rolls.map Die.isInitial ++ List.replicate drawn.length false := by
  have keeps (die later : Die) (continues : die.Continues later) :
      later.isInitial = die.isInitial :=
    congrArg Option.isNone continues.addedBy
  rw [Touched.map_eq keeps spread.touched, List.map_append, List.map_map]
  exact congrArg _ (List.map_const' (l := drawn) (b := false))

end Spread

structure Grown (rolls : List Die) (drawn : List UInt8) (after : List Die) : Prop where
  naturals : after.map Die.natural = rolls.map Die.natural ++ drawn
  initials : after.map Die.isInitial = rolls.map Die.isInitial ++ List.replicate drawn.length false

theorem Grown.trans {rolls mid after : List Die} {drawn more : List UInt8}
    (first : Grown rolls drawn mid) (second : Grown mid more after) :
    Grown rolls (drawn ++ more) after where
  naturals := by rw [second.naturals, first.naturals, List.append_assoc]
  initials := by
    rw [second.initials, first.initials, List.append_assoc, List.replicate_append_replicate,
      List.length_append]

theorem applyAll_grown {dice : Dice} {modifiers : List Modifier} {rolls : List Die} {faces : Faces}
    (done : (applyAll dice modifiers rolls faces).error = none) :
    ∃ drawn, Grown rolls drawn (applyAll dice modifiers rolls faces).rolls ∧
      faces.Gives dice.sides drawn (applyAll dice modifiers rolls faces).faces := by
  induction modifiers generalizing rolls faces with
  | nil => exact ⟨[], ⟨by simp [applyAll], by simp [applyAll]⟩, .nil⟩
  | cons modifier others ih =>
    obtain ⟨first, same⟩ := applyAll_cons_of_done done
    rw [same] at done ⊢
    obtain ⟨drawn, step⟩ := Modifier.step_of_done first
    obtain ⟨lost, gives, whole⟩ := step.gives
    obtain ⟨more, grown, later⟩ := ih done
    rw [whole first, List.append_nil] at gives
    exact ⟨drawn ++ more, .trans ⟨step.spread.naturals, step.spread.initials⟩ grown,
      gives.append later⟩

namespace Rolled

def landed (rolled : Rolled) : List UInt8 := rolled.rolls.map Die.natural

structure Whole (rolled : Rolled) : Prop where
  enough : rolled.dice.count.toNat ≤ rolled.rolls.length
  original : ∀ die ∈ rolled.rolls.take rolled.dice.count.toNat, die.addedBy = none
  added : ∀ die ∈ rolled.rolls.drop rolled.dice.count.toNat, die.addedBy ≠ none

theorem Whole.natural {rolled : Rolled} (whole : rolled.Whole) :
    rolled.natural = rolled.landed.take rolled.dice.count.toNat := by
  have first : (rolled.rolls.take rolled.dice.count.toNat).filter Die.isInitial =
      rolled.rolls.take rolled.dice.count.toNat :=
    List.filter_eq_self.mpr fun die member =>
      Option.isNone_iff_eq_none.mpr (whole.original die member)
  have others : (rolled.rolls.drop rolled.dice.count.toNat).filter Die.isInitial = [] :=
    List.filter_eq_nil_iff.mpr fun die member initial =>
      whole.added die member (Option.isNone_iff_eq_none.mp initial)
  have split := List.take_append_drop rolled.dice.count.toNat rolled.rolls
  rw [Rolled.natural, landed, ← List.map_take, ← split, List.filter_append, split, first, others,
    List.append_nil]

theorem whole_of_grown {dice : Dice} {faces more : List UInt8} {rolls : List Die}
    (enough : faces.length = dice.count.toNat)
    (grown : Grown (ofFaces dice faces).rolls more rolls) : Whole ⟨dice, rolls⟩ := by
  have flags : rolls.map Die.isInitial =
      List.replicate dice.count.toNat true ++ List.replicate more.length false := by
    rw [grown.initials, ← enough, ofFaces, List.map_map]
    exact congrArg (· ++ _) (List.map_const' (l := faces) (b := true))
  have size : (List.replicate dice.count.toNat true).length = dice.count.toNat :=
    List.length_replicate
  refine ⟨?_, fun die member => ?_, fun die member => ?_⟩
  · have := congrArg List.length flags
    simp only [List.length_map, List.length_append, List.length_replicate] at this
    exact this ▸ Nat.le_add_right _ _
  · have flag := List.mem_map_of_mem (f := Die.isInitial) member
    rw [List.map_take, flags, List.take_left' size] at flag
    exact Option.isNone_iff_eq_none.mp (List.eq_of_mem_replicate flag)
  · have flag := List.mem_map_of_mem (f := Die.isInitial) member
    rw [List.map_drop, flags, List.drop_left' size] at flag
    have added : die.isInitial = false := List.eq_of_mem_replicate flag
    intro none
    simp [Die.isInitial, none] at added

end Rolled

theorem Dice.roll_whole {dice : Dice} {faces rest : Faces} {rolled : Rolled}
    (done : dice.roll.run faces = (.ok rolled, rest)) :
    rolled.dice = dice ∧ rolled.Whole ∧ faces.Gives dice.sides rolled.landed rest := by
  obtain ⟨drawn, mid, first, count, whole, rfl, rfl⟩ := Dice.rollWith_run_eq_ok done
  obtain ⟨more, grown, later⟩ := applyAll_grown whole
  refine ⟨rfl, Rolled.whole_of_grown count grown, ?_⟩
  have landed : Rolled.landed ⟨dice, _⟩ = _ := grown.naturals
  have gives := Faces.gives_draw dice.sides dice.count.toNat faces
  rw [landed, Rolled.ofFaces, List.map_map]
  rw [first] at gives
  exact (List.map_id _).symm ▸ gives.append later

namespace DiceExpr

/-- The rolled sets stand for the dice of the expression, and their faces are those the queue
lost. -/
structure Served (expr : DiceExpr) (faces : List UInt8) (rolled : RolledExpr) (rest : Faces) :
    Prop where
  dice : rolled.leaves.map Rolled.dice = expr.leaves
  whole : ∀ leaf ∈ rolled.leaves, leaf.Whole
  split : ∃ left, rest = .queue left ∧ faces = rolled.leaves.flatMap Rolled.landed ++ left

theorem served {expr : DiceExpr} {faces : List UInt8} {rolled : RolledExpr} {rest : Faces}
    (done : expr.roll.run (.queue faces) = (.ok rolled, rest)) : Served expr faces rolled rest := by
  unfold roll at done
  induction expr generalizing faces rolled rest with
  | number value =>
    cases done
    exact ⟨rfl, by simp [Expr.leaves], faces, rfl, rfl⟩
  | leaf dice =>
    obtain ⟨set, mid, rolls, done⟩ := bind_run_eq_ok done
    cases done
    obtain ⟨same, whole, gives⟩ := Dice.roll_whole rolls
    obtain ⟨left, rfl, split⟩ := gives.queue
    refine ⟨?_, ?_, left, rfl, ?_⟩
    · simp only [Expr.leaves, List.map_singleton, same]
    · simpa only [Expr.leaves, List.forall_mem_singleton] using whole
    · simpa only [Expr.leaves, List.flatMap_singleton] using split
  | neg operand ih =>
    obtain ⟨inner, mid, rolls, done⟩ := bind_run_eq_ok done
    cases done
    obtain ⟨dice, whole, split⟩ := ih rolls
    exact ⟨dice, whole, split⟩
  | binary op left right ihLeft ihRight =>
    obtain ⟨first, mid, rolls, done⟩ := bind_run_eq_ok done
    obtain ⟨second, last, others, done⟩ := bind_run_eq_ok done
    cases done
    obtain ⟨dice, whole, remaining, rfl, split⟩ := ihLeft rolls
    obtain ⟨moreDice, moreWhole, kept, rfl, moreSplit⟩ := ihRight others
    refine ⟨?_, ?_, kept, rfl, ?_⟩
    · simp only [Expr.leaves, List.map_append, dice, moreDice]
    · simp only [Expr.leaves, List.forall_mem_append]
      exact ⟨whole, moreWhole⟩
    · simp only [Expr.leaves, List.flatMap_append, split, moreSplit, List.append_assoc]

/-- No die is lost, invented or moved: a roll that ends has taken the faces of its dice, from left
to right, off the queue and nothing else, and the original dice of each set are its first ones. -/
theorem roll_conserves {expr : DiceExpr} {faces : List UInt8} {rolled : RolledExpr} {rest : Faces}
    (done : expr.roll.run (.queue faces) = (.ok rolled, rest)) :
    rolled.leaves.map Rolled.dice = expr.leaves ∧
      (∃ left, rest = .queue left ∧ faces = rolled.leaves.flatMap Rolled.landed ++ left) ∧
      (∀ leaf ∈ rolled.leaves, leaf.Whole) ∧
      rolled.natural = rolled.leaves.flatMap fun leaf =>
        leaf.landed.take leaf.dice.count.toNat := by
  obtain ⟨dice, whole, split⟩ := served done
  exact ⟨dice, split, whole, List.flatMap_congr fun leaf member => (whole leaf member).natural⟩

theorem roll_conserves_two_sets :
    let first : Dice := ⟨4, 6, [.reroll (.atMost 1) true]⟩
    let second : Dice := ⟨2, 6, [.minimum 2, .explode none false]⟩
    let faces : List UInt8 := [3, 6, 1, 2, 1, 4, 6, 1, 5, 9]
    ∃ rolled : RolledExpr,
      (roll (.binary .add (.leaf first) (.neg (.leaf second)))).run (.queue faces) =
        (.ok rolled, .queue [9]) ∧
      rolled.natural = [3, 6, 1, 2, 6, 1] ∧
      rolled.leaves.map Rolled.dice = [first, second] ∧
      (∃ left, Faces.queue [9] = .queue left ∧
        faces = rolled.leaves.flatMap Rolled.landed ++ left) ∧
      (∀ leaf ∈ rolled.leaves, leaf.Whole) ∧
      rolled.natural = rolled.leaves.flatMap fun leaf => leaf.landed.take leaf.dice.count.toNat :=
  ⟨_, rfl, by decide, @roll_conserves (.binary .add (.leaf _) (.neg (.leaf _))) _ _ _ rfl⟩

end DiceExpr
end Tabletop
