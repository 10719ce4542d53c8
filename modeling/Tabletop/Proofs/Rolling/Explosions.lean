import Tabletop.Proofs.Rolling.Step

/-! Explosions are counted. Every wave adds one die for each die of the wave before it that met the
condition, so all waves together add one for each kept die that met it at first and, in a recursive
explosion, one for each added die that meets it. Nothing that lay there before is touched. -/
namespace Tabletop

variable {cause : Modifier} {condition : Condition} {recurse : Bool}

/-- What an explosion that comes to its end adds for a number of dice that met the condition, wave
by wave. -/
inductive Exploded (cause : Modifier) (condition : Condition) (recurse : Bool) :
    Nat → List Die → Prop where
  | last {count : Nat} {drawn : List UInt8} : drawn.length = count → (recurse = true → count = 0) →
      Exploded cause condition recurse count (drawn.map (Die.added cause))
  | again {count : Nat} {drawn : List UInt8} {later : List Die} :
      drawn.length = count → recurse = true →
      Exploded cause condition recurse
        ((drawn.map (Die.added cause)).countP condition.concerns) later →
      Exploded cause condition recurse count (drawn.map (Die.added cause) ++ later)

theorem exploded_of_done {sides : UInt8} {passes count : Nat} {rolls : List Die} {faces : Faces}
    (done : (explosionWaves cause condition sides recurse passes count rolls faces).error = none) :
    ∃ added, (explosionWaves cause condition sides recurse passes count rolls faces).rolls =
      rolls ++ added ∧ Exploded cause condition recurse count added := by
  induction passes generalizing count rolls faces with
  | zero => cases done
  | succ passes ih =>
    have most : (faces.draw sides count).1.length ≤ count := Faces.length_draw_le count faces
    simp only [explosionWaves] at done ⊢
    split at done
    · cases done
    · next whole =>
      have given := Nat.le_antisymm most (Nat.not_lt.mp whole)
      rw [if_neg whole]
      split
      · next more =>
        rw [if_pos more] at done
        obtain ⟨later, same, waves⟩ := ih done
        refine ⟨_ ++ later, ?_, .again given (Bool.and_eq_true_iff.mp more).1 waves⟩
        rw [same, List.append_assoc]
      · next ended =>
        refine ⟨_, rfl, .last given fun recurses => ?_⟩
        simpa [recurses] using ended

namespace Exploded

variable {count : Nat} {added : List Die}

theorem fresh (waves : Exploded cause condition recurse count added) :
    ∀ die ∈ added, die.isKept = true ∧ die.addedBy = some cause := by
  have wave (drawn : List UInt8) :
      ∀ die ∈ drawn.map (Die.added cause), die.isKept = true ∧ die.addedBy = some cause := by
    intro die member
    obtain ⟨face, _, rfl⟩ := List.mem_map.mp member
    exact ⟨rfl, rfl⟩
  induction waves with
  | last _ _ => exact wave _
  | again _ _ _ ih => exact List.forall_mem_append.mpr ⟨wave _, ih⟩

/-- The invariant of the waves: those after the first were all called for by added dice. -/
theorem length_eq (waves : Exploded cause condition recurse count added) :
    added.length = count + if recurse = true then added.countP condition.concerns else 0 := by
  induction waves with
  | @last count drawn given settled =>
    rw [List.length_map, given]
    split
    · next recurses =>
      have none : drawn = [] := List.eq_nil_of_length_eq_zero (given.trans (settled recurses))
      rw [none]
      rfl
    · rfl
  | again given recurses _ ih =>
    rw [if_pos recurses] at ih ⊢
    rw [List.length_append, List.length_map, given, ih, List.countP_append]

end Exploded

/-- An explosion that is not broken off leaves every die as it lay and adds kept dice by its own
name: one for each kept die that met the condition before and, if it is recursive, one for each
added die that meets it. Where no condition is given, a die meets it from its highest face on. -/
theorem Modifier.explode_counted {given : Option Condition} {passes : Nat} {dice : Dice}
    {rolls : List Die} {faces : Faces}
    (done : ((explode given recurse).applyWithin passes dice rolls faces).error = none) :
    let condition := given.getD (.atLeast dice.sides)
    ∃ added,
      ((explode given recurse).applyWithin passes dice rolls faces).rolls = rolls ++ added ∧
        (∀ die ∈ added, die.isKept = true ∧ die.addedBy = some (explode given recurse)) ∧
        added.length = rolls.countP (fun die => die.isKept && condition.meets die.value) +
          if recurse = true then added.countP fun die => condition.meets die.value else 0 := by
  intro condition
  have started : ¬ (recurse && condition.coversEveryFace dice.sides) = true := by
    intro refused
    simp [applyWithin, condition, refused] at done
  simp only [applyWithin, condition, if_neg started] at done ⊢
  obtain ⟨added, split, waves⟩ := exploded_of_done done
  refine ⟨added, split, waves.fresh, ?_⟩
  -- All added dice are kept, so the waves looked at each of them.
  have seen :
      added.countP condition.concerns = added.countP fun die => condition.meets die.value := by
    refine List.countP_congr fun die member => ?_
    rw [Condition.concerns, (waves.fresh die member).1, Bool.true_and]
  rw [← seen]
  exact waves.length_eq

theorem Modifier.explode_counted_waves :
    let rolls : List Die := [⟨6, none, some (.keepLow 3), []⟩, ⟨6, none, none, []⟩,
      ⟨6, none, none, [⟨2, 6, .minimum 6⟩]⟩, ⟨3, none, none, []⟩]
    let table := (explode none true).applyWithin 5 ⟨4, 6, []⟩ rolls (.queue [6, 2, 5, 1])
    let condition := (none : Option Condition).getD (.atLeast 6)
    table.error = none ∧ table.faces.canRoll = true ∧
      ∃ added, table.rolls = rolls ++ added ∧
        (∀ die ∈ added, die.isKept = true ∧ die.addedBy = some (explode none true)) ∧
        added.length = rolls.countP (fun die => die.isKept && condition.meets die.value) +
          if true = true then added.countP fun die => condition.meets die.value else 0 :=
  ⟨by decide, by decide, explode_counted (by decide)⟩

end Tabletop
