import Tabletop.Proofs.Rolling.Rerolls

/-! Sums of dice without explosions. Along such a roll the number of kept dice never grows: a reroll
adds as many as it drops, and nothing else adds any. A die shows at most 255, so the sum stays below
the limit of a total. -/
namespace Tabletop

namespace Touched

variable {cause : Modifier}

theorem kept_of_kept {die later : Die} (touched : Touched cause die later)
    (kept : later.isKept = true) : die.isKept = true := by
  cases before : die.isKept with
  | true => rfl
  | false =>
    rw [touched.continues.dropped before, before] at kept
    exact kept

theorem countP_kept_le {rolls after : List Die}
    (touched : List.Forall₂ (Touched cause) rolls after) :
    after.countP Die.isKept ≤ rolls.countP Die.isKept := by
  induction touched with
  | nil => exact Nat.le_refl _
  | @cons die later rolls after first _ ih =>
    cases kept : later.isKept with
    | true =>
      rw [List.countP_cons_of_pos kept, List.countP_cons_of_pos (first.kept_of_kept kept)]
      exact Nat.succ_le_succ ih
    | false =>
      rw [List.countP_cons_of_neg (by simp [kept])]
      exact Nat.le_trans ih (List.sublist_cons_self die rolls).countP_le

end Touched

theorem Spread.countP_kept_le {cause : Modifier} {rolls after : List Die} {drawn : List UInt8}
    (spread : Spread cause rolls drawn after) (still : cause.addsDice = false) :
    after.countP Die.isKept ≤ rolls.countP Die.isKept := by
  have none : drawn = [] := by
    by_contra drew
    exact absurd (spread.adds drew) (by simp [still])
  subst none
  exact Touched.countP_kept_le (by simpa using spread.touched)

theorem Modifier.countP_kept_le {modifier : Modifier}
    (calm : ∀ given recurse, modifier ≠ .explode given recurse)
    {passes : Nat} {dice : Dice} {rolls : List Die} {faces : Faces}
    (done : (modifier.applyWithin passes dice rolls faces).error = none) :
    (modifier.applyWithin passes dice rolls faces).rolls.countP Die.isKept ≤
      rolls.countP Die.isKept := by
  cases modifier with
  | explode given recurse => exact absurd rfl (calm given recurse)
  | reroll condition recurse =>
    simp only [applyWithin] at done ⊢
    split at done
    · cases done
    · next started =>
      rw [if_neg started]
      exact Nat.le_of_eq (rerolled_of_done done).kept
  | keepHigh | keepLow | minimum | maximum =>
    obtain ⟨drawn, step⟩ := step_of_done done
    exact step.spread.countP_kept_le rfl

theorem applyAll_countP_kept_le {dice : Dice} {modifiers : List Modifier}
    (calm : ∀ modifier ∈ modifiers, ∀ given recurse, modifier ≠ .explode given recurse)
    {rolls : List Die} {faces : Faces} (done : (applyAll dice modifiers rolls faces).error = none) :
    (applyAll dice modifiers rolls faces).rolls.countP Die.isKept ≤ rolls.countP Die.isKept := by
  induction modifiers generalizing rolls faces with
  | nil => exact Nat.le_refl _
  | cons modifier others ih =>
    obtain ⟨first, same⟩ := applyAll_cons_of_done done
    obtain ⟨calmFirst, calmOthers⟩ := List.forall_mem_cons.mp calm
    rw [same] at done ⊢
    exact Nat.le_trans (ih calmOthers done) (Modifier.countP_kept_le calmFirst first)

theorem Dice.countP_kept_le {dice : Dice}
    (calm : ∀ modifier ∈ dice.modifiers, ∀ given recurse, modifier ≠ .explode given recurse)
    {faces rest : Faces} {rolled : Rolled} (done : dice.roll.run faces = (.ok rolled, rest)) :
    rolled.rolls.countP Die.isKept ≤ dice.count.toNat := by
  obtain ⟨drawn, mid, _, count, whole, rfl, _⟩ := Dice.rollWith_run_eq_ok done
  have initial : (Rolled.ofFaces dice drawn).rolls.countP Die.isKept ≤ dice.count.toNat := by
    rw [← count, ← List.length_map]
    exact List.countP_le_length
  exact Nat.le_trans (applyAll_countP_kept_le calm whole) initial

theorem foldl_value_le (start : Nat) (rolls : List Die) :
    rolls.foldl (fun sum die => sum + die.value.toNat) start ≤ start + 255 * rolls.length := by
  induction rolls generalizing start with
  | nil => exact Nat.le_refl _
  | cons die rolls ih =>
    have small := die.value.toNat_lt
    have others := ih (start + die.value.toNat)
    rw [List.foldl_cons, List.length_cons]
    omega

theorem Rolled.sum_le (rolled : Rolled) : rolled.sum ≤ 255 * rolled.rolls.countP Die.isKept := by
  have bound := foldl_value_le 0 (rolled.rolls.filter Die.isKept)
  rwa [← List.countP_eq_length_filter, Nat.zero_add] at bound

theorem Rolled.exists_total? (rolled : Rolled) (small : rolled.sum ≤ 65535) :
    ∃ total, rolled.total? = some total ∧ total.value = rolled.sum :=
  ⟨.ofSum rolled.sum small, dif_pos small, rfl⟩

/-- Dice whose modifiers are all others than explosions have a total whenever their roll ends, and
it is at most 255 for each of them. -/
theorem Dice.roll_bounded {dice : Dice}
    (calm : ∀ modifier ∈ dice.modifiers, ∀ given recurse, modifier ≠ .explode given recurse)
    {faces rest : Faces} {rolled : Rolled} (done : dice.roll.run faces = (.ok rolled, rest)) :
    ∃ total, rolled.total? = some total ∧ total.value ≤ 255 * dice.count.toNat := by
  have kept := countP_kept_le calm done
  have sum := rolled.sum_le
  have few := dice.count.toNat_lt
  obtain ⟨total, found, value⟩ := rolled.exists_total? (by omega)
  exact ⟨total, found, by omega⟩

theorem Dice.roll_bounded_rerolled :
    let dice : Dice := ⟨3, 6, [.reroll (.atMost 2) true, .maximum 5, .keepHigh 2]⟩
    (∀ modifier ∈ dice.modifiers, ∀ given recurse, modifier ≠ .explode given recurse) ∧
      ∃ rolled, dice.roll.run (.queue [1, 6, 4, 2, 6]) = (.ok rolled, .queue []) ∧
        ∃ total, rolled.total? = some total ∧ total.value ≤ 255 * dice.count.toNat := by
  intro dice
  have calm : ∀ modifier ∈ dice.modifiers, ∀ given recurse, modifier ≠ .explode given recurse := by
    simp [dice]
  have done : dice.roll.run (.queue [1, 6, 4, 2, 6]) = (.ok ⟨dice, _⟩, .queue []) := rfl
  exact ⟨calm, _, done, Dice.roll_bounded calm done⟩

end Tabletop
