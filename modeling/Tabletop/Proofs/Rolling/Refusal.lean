import Tabletop.Expr.Total
import Tabletop.Proofs.Rolling.Ending
import Tabletop.Proofs.Rolling.Faces

/-! Rolls that are refused. Whether dice are rolled at all is told by their notation: a roll that
ends is refused exactly when some modifier repeats on every face of its dice, at the first dice that
have one, whatever the faces are. -/
namespace Tabletop

theorem Condition.coversEveryFace_iff {condition : Condition} {sides : UInt8} :
    condition.coversEveryFace sides = true ↔
      ∀ face : UInt8, 1 ≤ face.toNat → face.toNat ≤ max sides.toNat 1 →
        condition.meets face = true := by
  simp only [coversEveryFace, List.all_eq_true, List.mem_range]
  constructor
  · intro covers face positive most
    have met := covers (face.toNat - 1) (by omega)
    rwa [Nat.sub_add_cancel positive] at met
  · intro covers i below
    have fits : i + 1 < UInt8.size := by
      have := sides.toNat_lt
      simp only [UInt8.size]
      omega
    have value : (UInt8.ofNat (i + 1)).toNat = i + 1 := UInt8.toNat_ofNat_of_lt' fits
    have met := covers (UInt8.ofNat (i + 1)) (by omega) (by omega)
    rwa [meets, value] at met

/-- A modifier that looks at the dice it adds as well, on a condition that every face meets; dice
without sides count as if they had one. -/
def Modifier.Endless (sides : UInt8) (modifier : Modifier) : Prop :=
  ∃ condition, modifier.adds? sides = some (condition, true) ∧
    ∀ face : UInt8, 1 ≤ face.toNat → face.toNat ≤ max sides.toNat 1 → condition.meets face = true

def Dice.Endless (dice : Dice) : Prop := ∃ modifier ∈ dice.modifiers, modifier.Endless dice.sides

namespace Modifier

variable {modifier : Modifier} {dice : Dice} {rolls : List Die} {faces : Faces}

theorem applyTo_of_endless (endless : modifier.Endless dice.sides) :
    (modifier.applyTo dice rolls faces).error = some (.endless dice) := by
  obtain ⟨condition, adds, covers⟩ := endless
  have covers := Condition.coversEveryFace_iff.mpr covers
  cases modifier with
  | reroll | explode =>
    cases adds
    simp [applyTo, applyWithin, covers]
  | keepHigh | keepLow | minimum | maximum => cases adds

theorem applyTo_of_not_endless (spared : ¬ modifier.Endless dice.sides) (other : Dice) :
    (modifier.applyTo dice rolls faces).error ≠ some (.endless other) := by
  cases adds : modifier.adds? dice.sides with
  | none => cases modifier <;> first | contradiction | simp [applyTo, applyWithin]
  | some demand =>
    obtain ⟨condition, recurse⟩ := demand
    refine applyTo_started adds (Bool.eq_false_iff.mpr fun refused => spared ?_) other
    obtain ⟨rfl, covers⟩ := Bool.and_eq_true_iff.mp refused
    exact ⟨condition, adds, Condition.coversEveryFace_iff.mp covers⟩

end Modifier

theorem applyAll_error {dice : Dice} {modifiers : List Modifier} {rolls : List Die} {faces : Faces}
    (ends : (applyAll dice modifiers rolls faces).error ≠ some .unfinished) :
    ((∃ modifier ∈ modifiers, modifier.Endless dice.sides) ∧
        (applyAll dice modifiers rolls faces).error = some (.endless dice)) ∨
      (∀ modifier ∈ modifiers, ¬ modifier.Endless dice.sides) ∧
        (applyAll dice modifiers rolls faces).error = none := by
  -- What the dice and the source are when a modifier is reached plays no part.
  induction modifiers generalizing rolls faces with
  | nil => exact .inr ⟨by simp, rfl⟩
  | cons modifier others ih =>
    by_cases endless : modifier.Endless dice.sides
    · have refused : (modifier.applyTo dice rolls faces).error = some (.endless dice) :=
        Modifier.applyTo_of_endless endless
      refine .inl ⟨⟨modifier, List.mem_cons_self, endless⟩, ?_⟩
      simp only [applyAll, refused]
    · have started : ∀ other, (modifier.applyTo dice rolls faces).error ≠ some (.endless other) :=
        Modifier.applyTo_of_not_endless endless
      cases error : (modifier.applyTo dice rolls faces).error with
      | some cause =>
        simp only [applyAll, error] at ends
        cases cause with
        | endless other => exact absurd error (started other)
        | unfinished => exact absurd rfl ends
      | none =>
        simp only [applyAll, error] at ends ⊢
        rcases ih ends with ⟨⟨other, member, later⟩, refused⟩ | ⟨spared, done⟩
        · exact .inl ⟨⟨other, List.mem_cons_of_mem _ member, later⟩, refused⟩
        · exact .inr ⟨List.forall_mem_cons.mpr ⟨endless, spared⟩, done⟩

def FirstEndless (sets : List Dice) (dice : Dice) : Prop :=
  ∃ before after, sets = before ++ dice :: after ∧ dice.Endless ∧ ∀ other ∈ before, ¬ other.Endless

theorem FirstEndless.append_right {sets : List Dice} {dice : Dice} (first : FirstEndless sets dice)
    (more : List Dice) : FirstEndless (sets ++ more) dice := by
  obtain ⟨before, after, rfl, endless, spared⟩ := first
  exact ⟨before, after ++ more, by simp, endless, spared⟩

theorem FirstEndless.append_left {sets more : List Dice} {dice : Dice}
    (first : FirstEndless more dice) (finite : ∀ other ∈ sets, ¬ other.Endless) :
    FirstEndless (sets ++ more) dice := by
  obtain ⟨before, after, rfl, endless, spared⟩ := first
  exact ⟨sets ++ before, after, by simp, endless, List.forall_mem_append.mpr ⟨finite, spared⟩⟩

open Classical in
theorem firstEndless_iff {sets : List Dice} {dice : Dice} :
    FirstEndless sets dice ↔ sets.find? (fun dice => dice.Endless) = some dice := by
  simp only [FirstEndless, List.find?_eq_some_iff_append, decide_eq_true_eq, Bool.not_eq_true',
    decide_eq_false_iff_not]
  constructor
  · rintro ⟨before, after, split, endless, finite⟩
    exact ⟨endless, before, after, split, finite⟩
  · rintro ⟨endless, before, after, split, finite⟩
    exact ⟨before, after, split, endless, finite⟩

theorem FirstEndless.unique {sets : List Dice} {dice other : Dice} (first : FirstEndless sets dice)
    (second : FirstEndless sets other) : dice = other :=
  Option.some.inj ((firstEndless_iff.mp first).symm.trans (firstEndless_iff.mp second))

theorem FirstEndless.exists_mem {sets : List Dice} {dice : Dice} (first : FirstEndless sets dice) :
    ∃ dice ∈ sets, dice.Endless := by
  obtain ⟨before, after, rfl, endless, _⟩ := first
  exact ⟨dice, by simp, endless⟩

inductive Foretold {α : Type} (sets : List Dice) : Except RollError α → Prop where
  | rolled {a : α} : (∀ dice ∈ sets, ¬ dice.Endless) → Foretold sets (.ok a)
  | refused {dice : Dice} : FirstEndless sets dice → Foretold sets (.error (.endless dice))

namespace Foretold

variable {α β : Type} {sets more : List Dice} {faces : Faces}

theorem error_iff {result : Except RollError α} (foretold : Foretold sets result)
    {cause : RollError} :
    result = .error cause ↔ ∃ dice, FirstEndless sets dice ∧ cause = .endless dice := by
  cases foretold with
  | rolled finite =>
    refine ⟨fun refused => (by cases refused), ?_⟩
    rintro ⟨dice, first, _⟩
    obtain ⟨other, member, endless⟩ := first.exists_mem
    exact absurd endless (finite other member)
  | @refused dice first =>
    refine ⟨fun same => ⟨dice, first, (Except.error.inj same).symm⟩, ?_⟩
    rintro ⟨other, second, rfl⟩
    rw [first.unique second]

theorem pure (a : α) (faces : Faces) : Foretold [] ((Pure.pure a : Rolling α).run faces).1 :=
  .rolled (by simp)

theorem bind {action : Rolling α} {next : α → Rolling β}
    (first : (action.run faces).1 ≠ .error .unfinished → Foretold sets (action.run faces).1)
    (later : ∀ a rest, ((next a).run rest).1 ≠ .error .unfinished →
      Foretold more ((next a).run rest).1)
        (ends : ((action >>= next).run faces).1 ≠ .error .unfinished) :
    Foretold (sets ++ more) ((action >>= next).run faces).1 := by
  rw [run_bind] at ends ⊢
  rcases ran : action.run faces with ⟨cause | a, rest⟩
  · simp only [ran] at first ends ⊢
    cases first fun broken => ends (congrArg _ (Except.error.inj broken)) with
    | refused endless => exact .refused (endless.append_right more)
  · simp only [ran] at first ends ⊢
    cases first (by simp) with
    | rolled finite =>
      have others := later a rest ends
      generalize ((next a).run rest).1 = result at others ⊢
      cases others with
      | rolled others => exact .rolled (List.forall_mem_append.mpr ⟨finite, others⟩)
      | refused endless => exact .refused (endless.append_left finite)

end Foretold

theorem Dice.roll_foretold {dice : Dice} {faces : Faces}
    (ends : (dice.roll.run faces).1 ≠ .error .unfinished) :
    Foretold [dice] (dice.roll.run faces).1 := by
  simp only [roll, rollWith, ExceptT.run] at ends ⊢
  split at ends
  · exact absurd rfl ends
  · next enough =>
    rw [if_neg enough]
    have finished : (applyAll dice dice.modifiers
        (Rolled.ofFaces dice (faces.draw dice.sides dice.count.toNat).1).rolls
        (faces.draw dice.sides dice.count.toNat).2).error ≠ some .unfinished := by
      intro broken
      simp [broken] at ends
    rcases applyAll_error finished with ⟨endless, refused⟩ | ⟨finite, done⟩
    · simp only [refused]
      exact .refused ⟨[], [], rfl, endless, by simp⟩
    · simp only [done]
      refine .rolled ?_
      rintro other member ⟨modifier, listed, endless⟩
      obtain rfl := List.mem_singleton.mp member
      exact finite modifier listed endless

theorem DiceExpr.roll_foretold {expr : DiceExpr} {faces : Faces}
    (ends : (expr.roll.run faces).1 ≠ .error .unfinished) :
    Foretold expr.leaves (expr.roll.run faces).1 := by
  unfold roll at ends ⊢
  induction expr generalizing faces with
  | number value => exact .pure _ _
  | leaf dice => exact Foretold.bind Dice.roll_foretold (fun _ _ _ => .pure _ _) ends
  | neg operand ih =>
    rw [Expr.leaves, ← List.append_nil operand.leaves]
    exact Foretold.bind ih (fun _ _ _ => .pure _ _) ends
  | binary op left right ihLeft ihRight =>
    refine Foretold.bind ihLeft (fun a rest ends => ?_) ends
    rw [← List.append_nil right.leaves]
    exact Foretold.bind ihRight (fun _ _ _ => .pure _ _) ends

namespace DiceExpr

/-- Whether a roll that ends is refused is told by the notation, and so is the set that the refusal
names, the first one from the left with an endless modifier. The faces have no say in it. -/
theorem roll_refused_iff {expr : DiceExpr} {faces : Faces}
    (ends : (expr.roll.run faces).1 ≠ .error .unfinished) :
    ((∃ cause, (expr.roll.run faces).1 = .error cause) ↔ ∃ dice ∈ expr.leaves, dice.Endless) ∧
      (∀ cause, (expr.roll.run faces).1 = .error cause ↔
        ∃ dice, FirstEndless expr.leaves dice ∧ cause = .endless dice) ∧
      ∀ others : Faces, (expr.roll.run others).1 ≠ .error .unfinished →
        ∀ cause, (expr.roll.run others).1 = .error cause ↔
          (expr.roll.run faces).1 = .error cause := by
  have foretold := roll_foretold ends
  refine ⟨?_, fun _ => foretold.error_iff, fun others finished cause => ?_⟩
  · constructor
    · rintro ⟨cause, refused⟩
      obtain ⟨dice, first, _⟩ := foretold.error_iff.mp refused
      exact first.exists_mem
    · rintro ⟨dice, member, endless⟩
      generalize (expr.roll.run faces).1 = result at foretold
      cases foretold with
      | rolled finite => exact absurd endless (finite dice member)
      | refused first => exact ⟨_, rfl⟩
  · rw [foretold.error_iff, (roll_foretold finished).error_iff]

theorem roll_refused_iff_raised :
    let first : Dice := ⟨4, 6, [.reroll (.atMost 1) true]⟩
    let second : Dice := ⟨2, 1, [.minimum 2, .keepHigh 1, .explode none true]⟩
    let third : Dice := ⟨1, 4, [.reroll (.atMost 4) true]⟩
    let expr : DiceExpr :=
      .binary .add (.leaf first) (.neg (.binary .mul (.leaf second) (.leaf third)))
    let faces : Faces := .queue [3, 1, 6, 1, 2, 1, 5, 1, 1]
    (expr.roll.run faces).1 ≠ .error .unfinished ∧
      (expr.roll.run faces).1 = .error (.endless second) ∧
      ((∃ cause, (expr.roll.run faces).1 = .error cause) ↔ ∃ dice ∈ expr.leaves, dice.Endless) ∧
      (∀ cause, (expr.roll.run faces).1 = .error cause ↔
        ∃ dice, FirstEndless expr.leaves dice ∧ cause = .endless dice) ∧
      ∀ others : Faces, (expr.roll.run others).1 ≠ .error .unfinished →
        ∀ cause, (expr.roll.run others).1 = .error cause ↔
          (expr.roll.run faces).1 = .error cause := by
  intro first second third expr faces
  have refused : (expr.roll.run faces).1 = .error (.endless second) := rfl
  have ends : (expr.roll.run faces).1 ≠ .error .unfinished := by
    rw [refused]
    exact fun same => by cases same
  exact ⟨ends, refused, roll_refused_iff ends⟩

end DiceExpr
end Tabletop
