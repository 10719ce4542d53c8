import Tabletop.Proofs.Rolling.Patience
import Tabletop.Proofs.Rolling.Step

/-! Rolls that can end. The check before a reroll or an explosion leaves out no roll that would add
dice for ever: whatever was rolled so far, faces that the dice can land on bring it to its end. Dice
without sides always show 0 while the check asks for the face 1, so for them the two have to
agree. -/
namespace Tabletop

def Lands (sides face : UInt8) : Prop :=
  if sides = 0 then face = 0 else 1 ≤ face.toNat ∧ face.toNat ≤ sides.toNat

theorem lands_faceOf (drawn : UInt64) (sides : UInt8) : Lands sides (Faces.faceOf drawn sides) := by
  unfold Lands Faces.faceOf
  split
  · rfl
  · next sided =>
    have positive : 0 < sides.toNat :=
      Nat.pos_of_ne_zero fun zero => sided (UInt8.toNat_inj.mp zero)
    have below := Nat.mod_lt (drawn >>> 16).toNat positive
    have fits : (drawn >>> 16).toNat % sides.toNat + 1 < UInt8.size :=
      Nat.lt_of_le_of_lt below sides.toNat_lt
    rw [UInt8.toNat_ofNat_of_lt' fits]
    omega

theorem exists_lands (sides : UInt8) : ∃ face, Lands sides face := ⟨_, lands_faceOf 0 sides⟩

def Modifier.adds? (sides : UInt8) : Modifier → Option (Condition × Bool)
  | .reroll condition recurse => some (condition, recurse)
  | .explode condition recurse => some (condition.getD (.atLeast sides), recurse)
  | _ => none

/-- On the only face of dice without sides, the modifier repeats only if it also does on the face
1. -/
def Modifier.Guarded (sides : UInt8) (modifier : Modifier) : Prop :=
  ∀ condition, modifier.adds? sides = some (condition, true) → sides = 0 →
    condition.meets 0 = true → condition.meets 1 = true

theorem Condition.exists_missing {condition : Condition} {sides : UInt8}
    (uncovered : condition.coversEveryFace sides = false)
    (agrees : sides = 0 → condition.meets 0 = true → condition.meets 1 = true) :
    ∃ face, Lands sides face ∧ condition.meets face = false := by
  obtain ⟨i, below, fails⟩ : ∃ i < max sides.toNat 1,
      condition.sign.holds (i + 1 : Nat) condition.value.toNat = false := by
    simpa [coversEveryFace] using uncovered
  by_cases sided : sides = 0
  · subst sided
    obtain rfl : i = 0 := by simpa using below
    have misses : condition.meets 1 = false := fails
    refine ⟨0, rfl, Bool.eq_false_iff.mpr fun met => ?_⟩
    exact absurd (agrees rfl met) (by simp [misses])
  · have positive : sides.toNat ≠ 0 := fun zero => sided (UInt8.toNat_inj.mp zero)
    have bound : i + 1 ≤ sides.toNat := by omega
    have value : (UInt8.ofNat (i + 1)).toNat = i + 1 :=
      UInt8.toNat_ofNat_of_lt' (Nat.lt_of_le_of_lt bound sides.toNat_lt)
    refine ⟨UInt8.ofNat (i + 1), ?_, ?_⟩
    · rw [Lands, if_neg sided, value]
      omega
    · rw [meets, value]
      exact fails

/-- The faces settle a demand for dice: there is one for each, and what the condition then asks for,
if the dice that meet it are looked at, is settled by the others. -/
inductive Settled (condition : Condition) (recurse : Bool) : Nat → List UInt8 → Prop where
  | none {faces : List UInt8} : Settled condition recurse 0 faces
  | wave {count : Nat} {faces : List UInt8} : count ≤ faces.length →
      (recurse = true →
        Settled condition recurse ((faces.take count).countP condition.meets) (faces.drop count)) →
        Settled condition recurse count faces

namespace Settled

variable {condition : Condition} {recurse : Bool} {count : Nat} {faces : List UInt8}

theorem enough (settled : Settled condition recurse count faces) : count ≤ faces.length := by
  cases settled with
  | none => exact Nat.zero_le _
  | wave enough _ => exact enough

theorem later (settled : Settled condition true count faces) :
    Settled condition true ((faces.take count).countP condition.meets) (faces.drop count) := by
  cases settled with
  | none => exact .none
  | wave _ later => exact later rfl

theorem of_missing {face : UInt8} (misses : recurse = true → condition.meets face = false)
    (count : Nat) (shown : List UInt8) :
    ∃ size, Settled condition recurse count (shown ++ List.replicate size face) := by
  induction size : shown.length using Nat.strongRecOn generalizing count shown with
  | _ length ih =>
    subst size
    rcases Nat.eq_zero_or_pos count with rfl | positive
    · exact ⟨0, .none⟩
    · let first := shown ++ List.replicate (count - shown.length) face
      have long : count ≤ first.length := by
        simp only [first, List.length_append, List.length_replicate]
        omega
      have left : first.drop count = shown.drop count := by
        simp [first, List.drop_append, List.drop_replicate]
      obtain ⟨size, settled⟩ : ∃ size, recurse = true → Settled condition recurse
          ((first.take count).countP condition.meets)
            (shown.drop count ++ List.replicate size face) := by
        -- Either a face that was shown is used up, or all dice show the one that asks for no more.
        cases shown with
        | nil =>
          refine ⟨0, fun again => ?_⟩
          have missed : (first.take count).countP condition.meets = 0 := by
            simp [first, List.countP_replicate, misses again]
          rw [missed]
          exact .none
        | cons top others =>
          have shorter : ((top :: others).drop count).length < (top :: others).length := by
            simp only [List.length_drop, List.length_cons]
            omega
          obtain ⟨size, settled⟩ := ih _ shorter ((first.take count).countP condition.meets) _ rfl
          exact ⟨size, fun _ => settled⟩
      refine ⟨count - shown.length + size, ?_⟩
      rw [← List.replicate_append_replicate, ← List.append_assoc]
      refine .wave (Nat.le_trans long (List.sublist_append_left _ _).length_le) fun again => ?_
      rw [List.take_append_of_le_length long, List.drop_append_of_le_length long, left]
      exact settled again

theorem eq_zero_of_all (all : ∀ face ∈ faces, condition.meets face = true)
    (settled : Settled condition true count faces) : count = 0 := by
  induction settled with
  | none => rfl
  | @wave count faces enough _ ih =>
    have met : (faces.take count).countP condition.meets = (faces.take count).length :=
      List.countP_eq_length.mpr fun face member => all face (List.mem_of_mem_take member)
    have none := ih rfl fun face member => all face (List.mem_of_mem_drop member)
    rw [met, List.length_take] at none
    omega

end Settled

theorem length_take_lt_iff {count : Nat} {faces : List UInt8} :
    (faces.take count).length < count ↔ faces.length < count := by
  rw [List.length_take]
  omega

theorem countP_added (cause : Modifier) (condition : Condition) (drawn : List UInt8) :
    (drawn.map (Die.added cause)).countP condition.concerns = drawn.countP condition.meets := by
  rw [List.countP_map]
  rfl

theorem countP_dropMeeting (cause : Modifier) (condition : Condition) (count : Nat)
    (rolls : List Die) :
    (dropMeeting cause condition count rolls).countP condition.concerns =
      rolls.countP condition.concerns - count := by
  fun_induction dropMeeting cause condition count rolls with
  | case1 rolls => rfl
  | case2 => exact (Nat.zero_sub _).symm
  | case3 count die rolls concerned ih =>
    have dropped : condition.concerns (die.drop cause) = false := by
      simp [Condition.concerns, Die.isKept, Die.drop]
    rw [List.countP_cons_of_neg (by simp [dropped]), List.countP_cons_of_pos concerned, ih]
    omega
  | case4 count die rolls spared ih =>
    rw [List.countP_cons_of_neg spared, List.countP_cons_of_neg spared, ih]

section Passes

variable (cause : Modifier) (condition : Condition) (sides : UInt8) (recurse : Bool)

theorem rerollPasses_ended_iff {passes : Nat} {rolls : List Die} {faces : List UInt8}
    (enough : faces.length < passes) :
    (rerollPasses cause condition sides recurse passes rolls (.queue faces)).error = none ↔
      Settled condition recurse (rolls.countP condition.concerns) faces := by
  induction passes generalizing rolls faces with
  | zero => contradiction
  | succ passes ih =>
    simp only [rerollPasses, Faces.draw_queue]
    split
    · next short =>
      refine ⟨fun ended => ?_, fun settled => ?_⟩
      · cases ended
      · exact absurd settled.enough (Nat.not_le.mpr (length_take_lt_iff.mp short))
    · next given =>
      have whole := Nat.not_lt.mp (mt length_take_lt_iff.mpr given)
      split
      · next again =>
        obtain ⟨rfl, positive⟩ : recurse = true ∧ 0 < rolls.countP condition.concerns := by
          simpa using again
        rw [ih (length_drop_lt positive given enough), List.countP_append, countP_dropMeeting,
          countP_added, Nat.sub_self, Nat.zero_add]
        exact ⟨fun settled => .wave whole fun _ => settled, Settled.later⟩
      · next once =>
        refine ⟨fun _ => .wave whole fun again => ?_, fun _ => rfl⟩
        obtain zero : rolls.countP condition.concerns = 0 := by simpa [again] using once
        rw [zero, List.take_zero, List.countP_nil]
        exact .none

theorem explosionWaves_ended_iff {passes count : Nat} {rolls : List Die} {faces : List UInt8}
    (enough : faces.length < passes) :
    (explosionWaves cause condition sides recurse passes count rolls (.queue faces)).error = none ↔
      Settled condition recurse count faces := by
  induction passes generalizing count rolls faces with
  | zero => contradiction
  | succ passes ih =>
    simp only [explosionWaves, Faces.draw_queue]
    split
    · next short =>
      refine ⟨fun ended => ?_, fun settled => ?_⟩
      · cases ended
      · exact absurd settled.enough (Nat.not_le.mpr (length_take_lt_iff.mp short))
    · next given =>
      have whole := Nat.not_lt.mp (mt length_take_lt_iff.mpr given)
      split
      · next again =>
        obtain ⟨rfl, positive⟩ : recurse = true ∧ 0 < count := by simpa using again
        rw [ih (length_drop_lt positive given enough), countP_added]
        exact ⟨fun settled => .wave whole fun _ => settled, Settled.later⟩
      · next once =>
        refine ⟨fun _ => .wave whole fun again => ?_, fun _ => rfl⟩
        obtain rfl : count = 0 := by simpa [again] using once
        exact .none

theorem rerollPasses_append {passes : Nat} {rolls after : List Die} {faces rest : List UInt8}
    (ended : rerollPasses cause condition sides recurse passes rolls (.queue faces) =
      ⟨after, .queue rest, none⟩) (more : List UInt8) :
    rerollPasses cause condition sides recurse passes rolls (.queue (faces ++ more)) =
      ⟨after, .queue (rest ++ more), none⟩ := by
  induction passes generalizing rolls faces with
  | zero => cases ended
  | succ passes ih =>
    simp only [rerollPasses, Faces.draw_queue] at ended ⊢
    split at ended
    · cases ended
    · next given =>
      have whole := Nat.not_lt.mp (mt length_take_lt_iff.mpr given)
      rw [List.take_append_of_le_length whole, List.drop_append_of_le_length whole, if_neg given]
      split at ended
      · next again =>
        rw [if_pos again]
        exact ih ended
      · next once =>
        cases ended
        rw [if_neg once]

theorem explosionWaves_append {passes count : Nat} {rolls after : List Die}
    {faces rest : List UInt8}
    (ended : explosionWaves cause condition sides recurse passes count rolls (.queue faces) =
      ⟨after, .queue rest, none⟩) (more : List UInt8) :
    explosionWaves cause condition sides recurse passes count rolls (.queue (faces ++ more)) =
      ⟨after, .queue (rest ++ more), none⟩ := by
  induction passes generalizing count rolls faces with
  | zero => cases ended
  | succ passes ih =>
    simp only [explosionWaves, Faces.draw_queue] at ended ⊢
    split at ended
    · cases ended
    · next given =>
      have whole := Nat.not_lt.mp (mt length_take_lt_iff.mpr given)
      rw [List.take_append_of_le_length whole, List.drop_append_of_le_length whole, if_neg given]
      split at ended
      · next again =>
        rw [if_pos again]
        exact ih ended
      · next once =>
        cases ended
        rw [if_neg once]

end Passes

namespace Modifier

variable {modifier : Modifier} {dice : Dice} {rolls : List Die}

theorem applyWithin_of_adds {condition : Condition} {recurse : Bool}
    (adds : modifier.adds? dice.sides = some (condition, recurse))
    (started : (recurse && condition.coversEveryFace dice.sides) = false) (passes : Nat)
    (faces : Faces) :
    modifier.addsDice = true ∧
      (modifier.dropsDice = true ∧ modifier.applyWithin passes dice rolls faces =
          rerollPasses modifier condition dice.sides recurse passes rolls faces ∨
        modifier.applyWithin passes dice rolls faces =
          explosionWaves modifier condition dice.sides recurse passes
          (rolls.countP condition.concerns) rolls faces) := by
  cases modifier with
  | reroll given again =>
    cases adds
    exact ⟨rfl, .inl ⟨rfl, if_neg (by simp [started])⟩⟩
  | explode given again =>
    cases adds
    exact ⟨rfl, .inr (if_neg (by simp [started]))⟩
  | keepHigh | keepLow | minimum | maximum => cases adds

theorem applyTo_ended_iff {condition : Condition} {recurse : Bool} {faces : List UInt8}
    (adds : modifier.adds? dice.sides = some (condition, recurse))
    (started : (recurse && condition.coversEveryFace dice.sides) = false) :
    (modifier.applyTo dice rolls (.queue faces)).error = none ↔
      Settled condition recurse (rolls.countP condition.concerns) faces := by
  have patient : faces.length < (Faces.queue faces).patience := Nat.lt_succ_self _
  obtain ⟨_, ⟨_, passes⟩ | waves⟩ :=
    applyWithin_of_adds adds started (Faces.queue faces).patience (.queue faces)
  · rw [applyTo, passes]
    exact rerollPasses_ended_iff _ _ _ _ patient
  · rw [applyTo, waves]
    exact explosionWaves_ended_iff _ _ _ _ patient

theorem applyTo_started {condition : Condition} {recurse : Bool} {faces : Faces}
    (adds : modifier.adds? dice.sides = some (condition, recurse))
    (started : (recurse && condition.coversEveryFace dice.sides) = false) (other : Dice) :
    (modifier.applyTo dice rolls faces).error ≠ some (.endless other) := by
  obtain ⟨more, ⟨drops, passes⟩ | waves⟩ := applyWithin_of_adds adds started faces.patience faces
  · obtain ⟨_, step⟩ :=
      rerollPasses_step more drops condition dice.sides recurse faces.patience rolls faces
    rw [applyTo, passes]
    exact step.started other
  · obtain ⟨_, step⟩ :=
      explosionWaves_step more condition dice.sides recurse faces.patience _ rolls faces
    rw [applyTo, waves]
    exact step.started other

theorem applyTo_unfinished {condition : Condition} {faces : List UInt8}
    (adds : modifier.adds? dice.sides = some (condition, true))
    (uncovered : condition.coversEveryFace dice.sides = false)
    (all : ∀ face ∈ faces, condition.meets face = true)
    (asked : rolls.countP condition.concerns ≠ 0) :
    (modifier.applyTo dice rolls (.queue faces)).error = some .unfinished := by
  cases error : (modifier.applyTo dice rolls (.queue faces)).error with
  | none =>
    have settled := (applyTo_ended_iff adds uncovered).mp error
    exact absurd (settled.eq_zero_of_all all) asked
  | some cause =>
    cases cause with
    | endless other => exact absurd error (applyTo_started adds uncovered other)
    | unfinished => rfl

theorem applyTo_append {after : List Die} {faces rest : List UInt8}
    (ended : modifier.applyTo dice rolls (.queue faces) = ⟨after, .queue rest, none⟩)
    (more : List UInt8) :
    modifier.applyTo dice rolls (.queue (faces ++ more)) =
      ⟨after, .queue (rest ++ more), none⟩ := by
  have enough : faces.length < (faces ++ more).length + 1 := by
    rw [List.length_append]
    omega
  rw [← applyWithin_queue modifier dice rolls enough] at ended
  change modifier.applyWithin ((faces ++ more).length + 1) dice rolls _ = _
  cases modifier with
  | reroll condition recurse =>
    simp only [applyWithin] at ended ⊢
    split at ended
    · cases ended
    · next started =>
      rw [if_neg started]
      exact rerollPasses_append _ _ _ _ ended more
  | explode condition recurse =>
    simp only [applyWithin] at ended ⊢
    split at ended
    · cases ended
    · next started =>
      rw [if_neg started]
      exact explosionWaves_append _ _ _ _ ended more
  | keepHigh | keepLow | minimum | maximum =>
    cases ended
    rfl

theorem exists_queue {faces : List UInt8}
    (ended : (modifier.applyTo dice rolls (.queue faces)).error = none) :
    ∃ after rest, modifier.applyTo dice rolls (.queue faces) = ⟨after, .queue rest, none⟩ := by
  obtain ⟨drawn, step⟩ := step_of_done ended
  obtain ⟨lost, gives, _⟩ := step.gives
  obtain ⟨rest, left, _⟩ := gives.queue
  refine ⟨(modifier.applyTo dice rolls (.queue faces)).rolls, rest, ?_⟩
  rw [← ended, ← left]
  rfl

theorem exists_ended (guarded : modifier.Guarded dice.sides) (rolls : List Die)
    (shown : List UInt8) :
    ∃ more, (∀ face ∈ more, Lands dice.sides face) ∧
      (modifier.applyTo dice rolls (.queue (shown ++ more))).error ≠ some .unfinished := by
  cases adds : modifier.adds? dice.sides with
  | none =>
    refine ⟨[], by simp, ?_⟩
    cases modifier <;> first | contradiction | simp [applyTo, applyWithin]
  | some demand =>
    obtain ⟨condition, recurse⟩ := demand
    cases started : recurse && condition.coversEveryFace dice.sides with
    | true =>
      refine ⟨[], by simp, ?_⟩
      cases modifier <;> cases adds <;> simp [applyTo, applyWithin, started]
    | false =>
      obtain ⟨face, lands, misses⟩ : ∃ face, Lands dice.sides face ∧
          (recurse = true → condition.meets face = false) := by
        cases recurse with
        | false =>
          obtain ⟨face, lands⟩ := exists_lands dice.sides
          exact ⟨face, lands, fun again => absurd again Bool.false_ne_true⟩
        | true =>
          obtain ⟨face, lands, misses⟩ := Condition.exists_missing started (guarded condition adds)
          exact ⟨face, lands, fun _ => misses⟩
      obtain ⟨size, settled⟩ := Settled.of_missing misses (rolls.countP condition.concerns) shown
      refine ⟨List.replicate size face,
        fun other member => List.eq_of_mem_replicate member ▸ lands, ?_⟩
      rw [(applyTo_ended_iff adds started).mpr settled]
      exact (Option.some_ne_none _).symm

end Modifier

theorem applyAll_can_end {dice : Dice} {modifiers : List Modifier}
    (guarded : ∀ modifier ∈ modifiers, modifier.Guarded dice.sides) (rolls : List Die)
    (shown : List UInt8) :
    ∃ more, (∀ face ∈ more, Lands dice.sides face) ∧
      (applyAll dice modifiers rolls (.queue (shown ++ more))).error ≠ some .unfinished := by
  induction modifiers generalizing rolls shown with
  | nil => exact ⟨[], by simp, (Option.some_ne_none _).symm⟩
  | cons modifier others ih =>
    obtain ⟨first, lands, goes⟩ :=
      Modifier.exists_ended (guarded modifier List.mem_cons_self) rolls shown
    cases error : (modifier.applyTo dice rolls (.queue (shown ++ first))).error with
    | some cause =>
      refine ⟨first, lands, ?_⟩
      simp only [applyAll, error]
      exact error ▸ goes
    | none =>
      obtain ⟨after, rest, ended⟩ := Modifier.exists_queue error
      obtain ⟨later, others, goes⟩ :=
        ih (fun modifier member => guarded modifier (List.mem_cons_of_mem _ member))
        after rest
      refine ⟨first ++ later, List.forall_mem_append.mpr ⟨lands, others⟩, ?_⟩
      rw [← List.append_assoc]
      simp only [applyAll, Modifier.applyTo_append ended later]
      exact goes

namespace Dice

/-- Whatever a roll was given so far, faces that its dice can land on bring it to a result or its
refusal. -/
theorem roll_can_end {dice : Dice}
    (guarded : ∀ modifier ∈ dice.modifiers, modifier.Guarded dice.sides) (shown : List UInt8) :
    ∃ more, (∀ face ∈ more, Lands dice.sides face) ∧
      (dice.roll.run (.queue (shown ++ more))).1 ≠ .error .unfinished := by
  obtain ⟨face, lands⟩ := exists_lands dice.sides
  let first := List.replicate (dice.count.toNat - shown.length) face
  have enough : dice.count.toNat ≤ (shown ++ first).length := by
    simp only [first, List.length_append, List.length_replicate]
    omega
  obtain ⟨later, others, goes⟩ := applyAll_can_end guarded
    (Rolled.ofFaces dice ((shown ++ first).take dice.count.toNat)).rolls
      ((shown ++ first).drop dice.count.toNat)
  refine ⟨first ++ later, List.forall_mem_append.mpr ⟨?_, others⟩, ?_⟩
  · exact fun other member => List.eq_of_mem_replicate member ▸ lands
  · have given : ¬ ((shown ++ first).take dice.count.toNat).length < dice.count.toNat :=
      mt length_take_lt_iff.mp (Nat.not_lt.mpr enough)
    simp only [roll, rollWith, ExceptT.run, ← List.append_assoc, Faces.draw_queue,
      List.take_append_of_le_length enough, List.drop_append_of_le_length enough, if_neg given]
    split
    · next cause error =>
      intro broken
      cases broken
      exact goes error
    · intro broken
      cases broken

theorem roll_can_end_repeating :
    (∀ modifier ∈ [Modifier.reroll ⟨.greater, 0⟩ true, .explode none false], modifier.Guarded 0) ∧
      ∃ more, (∀ face ∈ more, Lands 0 face) ∧
        ((Dice.mk 3 0 [.reroll ⟨.greater, 0⟩ true, .explode none false]).roll.run
          (.queue ([0] ++ more))).1 ≠ .error .unfinished := by
  have guarded : ∀ modifier ∈ [Modifier.reroll ⟨.greater, 0⟩ true, .explode none false],
      modifier.Guarded 0 := by
    simp [Modifier.Guarded, Modifier.adds?, Condition.meets, Sign.holds]
  exact ⟨guarded,
    @roll_can_end ⟨3, 0, [.reroll ⟨.greater, 0⟩ true, .explode none false]⟩ guarded [0]⟩

theorem roll_unfinished {dice : Dice} {modifier : Modifier} {condition : Condition}
    (rolled : dice.count ≠ 0) (sideless : dice.sides = 0) (only : dice.modifiers = [modifier])
    (adds : modifier.adds? dice.sides = some (condition, true)) (meets : condition.meets 0 = true)
    (misses : condition.meets 1 = false) (size : Nat) :
    (dice.roll.run (.queue (List.replicate size 0))).1 = .error .unfinished := by
  have uncovered : condition.coversEveryFace dice.sides = false := by
    simpa [sideless, Condition.coversEveryFace, Condition.meets] using misses
  simp only [roll, rollWith, ExceptT.run, Faces.draw_queue, only]
  split
  · rfl
  · next given =>
    have enough : dice.count.toNat ≤ size := by
      simpa using Nat.not_lt.mp (mt length_take_lt_iff.mpr given)
    have asked : (Rolled.ofFaces dice ((List.replicate size 0).take dice.count.toNat)).rolls.countP
        condition.concerns ≠ 0 := by
      have positive : dice.count.toNat ≠ 0 := fun zero => rolled (UInt8.toNat_inj.mp zero)
      simpa [Rolled.ofFaces, List.countP_replicate, Condition.concerns, Die.isKept, meets,
        enough] using positive
    have all :
        ∀ face ∈ (List.replicate size 0).drop dice.count.toNat, condition.meets face = true :=
      fun face member => List.eq_of_mem_replicate (List.mem_of_mem_drop member) ▸ meets
    simp only [applyAll, Modifier.applyTo_unfinished adds uncovered all asked]

/-- The roll of `1d0rr0` is started, and there are no faces after which it ends. -/
theorem not_ended_sideless : ¬ ∃ more, (∀ face ∈ more, Lands 0 face) ∧
    ((Dice.mk 1 0 [.reroll (.atMost 0) true]).roll.run (.queue more)).1 ≠ .error .unfinished := by
  rintro ⟨more, lands, ends⟩
  have zeros : more = List.replicate more.length 0 := List.eq_replicate_of_mem lands
  exact ends (zeros ▸ roll_unfinished (by decide) rfl rfl rfl rfl rfl _)

end Dice
end Tabletop
