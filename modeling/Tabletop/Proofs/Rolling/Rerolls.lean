import Tabletop.Proofs.Rolling.Conservation

/-! Rerolls are balanced. A pass drops the kept dice that meet the condition and adds one die for
each of them, so as many dice count after a reroll as before it. A recursive reroll passes on until
no kept die meets the condition. -/
namespace Tabletop

variable {cause : Modifier} {condition : Condition} {recurse : Bool}

def Die.passed (cause : Modifier) (condition : Condition) (die : Die) : Die :=
  if condition.concerns die then die.drop cause else die

theorem Die.isKept_passed (cause : Modifier) (condition : Condition) (die : Die) :
    (die.passed cause condition).isKept = (die.isKept && !condition.meets die.value) := by
  unfold passed
  split
  · next concerned =>
    obtain ⟨kept, meets⟩ := Bool.and_eq_true_iff.mp concerned
    simp [meets, Die.isKept, Die.drop]
  · next spared =>
    cases kept : die.isKept with
    | false => rfl
    | true =>
      have misses : condition.meets die.value = false := by
        simpa [Condition.concerns, kept] using spared
      simp [misses]

theorem dropMeeting_eq_map {count : Nat} {rolls : List Die}
    (enough : rolls.countP condition.concerns ≤ count) :
    dropMeeting cause condition count rolls = rolls.map (Die.passed cause condition) := by
  induction rolls generalizing count with
  | nil => cases count <;> rfl
  | cons die rolls ih =>
    cases concerned : condition.concerns die with
    | true =>
      rw [List.countP_cons_of_pos concerned] at enough
      obtain ⟨more, rfl⟩ : ∃ more, count = more + 1 := ⟨count - 1, by omega⟩
      simp only [dropMeeting, concerned, if_true, List.map_cons, Die.passed]
      rw [ih (by omega)]
    | false =>
      rw [List.countP_cons_of_neg (by simp [concerned])] at enough
      have others := ih enough
      cases count with
      | zero => simpa [dropMeeting, Die.passed, concerned] using others
      | succ count => simpa [dropMeeting, Die.passed, concerned] using others

def afterPass (cause : Modifier) (condition : Condition) (rolls : List Die) (drawn : List UInt8) :
    List Die :=
  rolls.map (Die.passed cause condition) ++ drawn.map (Die.added cause)

theorem countP_kept_passed (cause : Modifier) (condition : Condition) (rolls : List Die) :
    (rolls.map (Die.passed cause condition)).countP Die.isKept + rolls.countP condition.concerns =
      rolls.countP Die.isKept := by
  have spared : (rolls.map (Die.passed cause condition)).countP Die.isKept =
      rolls.countP fun die => die.isKept && !condition.meets die.value := by
    rw [List.countP_map]
    exact List.countP_congr fun die _ => by rw [Function.comp_apply, Die.isKept_passed]
  have parts := rolls.countP_eq_countP_filter_add Die.isKept fun die => condition.meets die.value
  rw [List.countP_filter, List.countP_filter] at parts
  rw [spared, parts, Nat.add_comm]
  rfl

theorem countP_kept_afterPass {rolls : List Die} {drawn : List UInt8}
    (given : drawn.length = rolls.countP condition.concerns) :
    (afterPass cause condition rolls drawn).countP Die.isKept = rolls.countP Die.isKept := by
  have fresh : (drawn.map (Die.added cause)).countP Die.isKept = drawn.length := by
    rw [List.countP_map]
    exact List.countP_eq_length.mpr fun _ _ => rfl
  rw [afterPass, List.countP_append, fresh, given]
  exact countP_kept_passed cause condition rolls

/-- What a reroll that comes to its end makes of the rolls, pass by pass. -/
inductive Rerolled (cause : Modifier) (condition : Condition) (recurse : Bool) :
    List Die → List Die → Prop where
  | last {rolls : List Die} {drawn : List UInt8} :
      drawn.length = rolls.countP condition.concerns →
      (recurse = true → rolls.countP condition.concerns = 0) →
      Rerolled cause condition recurse rolls (afterPass cause condition rolls drawn)
  | again {rolls after : List Die} {drawn : List UInt8} :
      drawn.length = rolls.countP condition.concerns → recurse = true →
      Rerolled cause condition recurse (afterPass cause condition rolls drawn) after →
      Rerolled cause condition recurse rolls after

theorem rerolled_of_done {sides : UInt8} {passes : Nat} {rolls : List Die} {faces : Faces}
    (done : (rerollPasses cause condition sides recurse passes rolls faces).error = none) :
    Rerolled cause condition recurse rolls
      (rerollPasses cause condition sides recurse passes rolls faces).rolls := by
  induction passes generalizing rolls faces with
  | zero => cases done
  | succ passes ih =>
    have most : (faces.draw sides (rolls.countP condition.concerns)).1.length ≤
        rolls.countP condition.concerns :=
      Faces.length_draw_le _ _
    simp only [rerollPasses, dropMeeting_eq_map (Nat.le_refl _)] at done ⊢
    split at done
    · cases done
    · next whole =>
      have given := Nat.le_antisymm most (Nat.not_lt.mp whole)
      rw [if_neg whole]
      split
      · next more =>
        rw [if_pos more] at done
        exact .again given (Bool.and_eq_true_iff.mp more).1 (ih done)
      · next ended =>
        refine .last given fun recurses => ?_
        simpa [recurses] using ended

namespace Rerolled

variable {rolls after : List Die}

theorem kept (run : Rerolled cause condition recurse rolls after) :
    after.countP Die.isKept = rolls.countP Die.isKept := by
  induction run with
  | last given _ => exact countP_kept_afterPass given
  | again given _ _ ih => rw [ih, countP_kept_afterPass given]

theorem settled (run : Rerolled cause condition true rolls after) :
    ∀ die ∈ after, die.isKept = true → condition.meets die.value = false := by
  induction run with
  | @last rolls drawn given settled =>
    have none := settled rfl
    rw [none] at given
    obtain rfl := List.eq_nil_of_length_eq_zero given
    intro die member kept
    rw [afterPass, List.map_nil, List.append_nil] at member
    obtain ⟨before, old, rfl⟩ := List.mem_map.mp member
    have spared := List.countP_eq_zero.mp none before old
    rw [Die.isKept_passed] at kept
    rw [Die.passed, if_neg spared]
    simpa using (Bool.and_eq_true_iff.mp kept).2
  | again _ _ _ ih => exact ih

theorem once (run : Rerolled cause condition false rolls after) :
    ∃ drawn, drawn.length = rolls.countP condition.concerns ∧
      after = afterPass cause condition rolls drawn := by
  cases run with
  | last given _ => exact ⟨_, given, rfl⟩
  | again _ recurses _ => cases recurses

end Rerolled

/-- The rolls split into those that lay there before and those that the modifier added, of which as
many count as counted before. -/
structure Balanced (cause : Modifier) (rolls earlier added : List Die) : Prop where
  touched : List.Forall₂ (Touched cause) rolls earlier
  addedBy : ∀ die ∈ added, die.addedBy = some cause
  kept : (earlier ++ added).countP Die.isKept = rolls.countP Die.isKept
  dropped : (earlier ++ added).countP (!·.isKept) = rolls.countP (!·.isKept) + added.length

theorem Spread.split {rolls after : List Die} {drawn : List UInt8}
    (spread : Spread cause rolls drawn after) :
    ∃ earlier added, after = earlier ++ added ∧ List.Forall₂ (Touched cause) rolls earlier ∧
      ∀ die ∈ added, die.addedBy = some cause := by
  refine ⟨after.take rolls.length, after.drop rolls.length, (List.take_append_drop _ _).symm, ?_,
    ?_⟩
  · have first := List.forall₂_take rolls.length spread.touched
    rwa [List.take_left] at first
  · have later := List.forall₂_drop rolls.length spread.touched
    rw [List.drop_left] at later
    have origins := Touched.map_eq (fun _ _ continues => continues.addedBy) later
    intro die member
    have origin : die.addedBy ∈ (after.drop rolls.length).map Die.addedBy :=
      List.mem_map_of_mem member
    rw [origins, List.map_map] at origin
    obtain ⟨face, _, same⟩ := List.mem_map.mp origin
    exact same.symm

theorem countP_dropped (rolls : List Die) :
    rolls.countP (!·.isKept) + rolls.countP Die.isKept = rolls.length := by
  have split := rolls.length_eq_countP_add_countP Die.isKept
  simp only [Bool.not_eq_true, Bool.decide_eq_false] at split
  omega

/-- A reroll that is not broken off leaves as many dice kept as there were, drops as many as it
adds, and adds each of them by its own name. Behind a recursive one no kept die meets the condition;
one that is not recursive drops just the kept dice that met it, and keeps all that it adds. -/
theorem Modifier.reroll_balanced {passes : Nat} {dice : Dice} {rolls : List Die} {faces : Faces}
    (done : ((reroll condition recurse).applyWithin passes dice rolls faces).error = none) :
    ∃ earlier added,
      ((reroll condition recurse).applyWithin passes dice rolls faces).rolls = earlier ++ added ∧
        Balanced (reroll condition recurse) rolls earlier added ∧
        (recurse = true → ∀ die ∈ earlier ++ added, die.isKept = true →
          condition.meets die.value = false) ∧
        (recurse = false → earlier = rolls.map (Die.passed (reroll condition recurse) condition) ∧
          ∀ die ∈ added, die.isKept = true) := by
  have started : ¬ (recurse && condition.coversEveryFace dice.sides) = true := by
    intro refused
    simp [applyWithin, refused] at done
  simp only [applyWithin, if_neg started] at done ⊢
  have adds : (reroll condition recurse).addsDice = true := rfl
  obtain ⟨drawn, step⟩ := rerollPasses_step adds rfl condition dice.sides recurse passes rolls faces
  have run := rerolled_of_done done
  obtain ⟨earlier, added, split, touched, addedBy⟩ := step.spread.split
  rw [split] at run ⊢
  have sizes : earlier.length = rolls.length := touched.length_eq.symm
  refine ⟨earlier, added, rfl, ⟨touched, addedBy, run.kept, ?_⟩, ?_, ?_⟩
  · have before := countP_dropped rolls
    have after := countP_dropped (earlier ++ added)
    rw [run.kept, List.length_append] at after
    omega
  · rintro rfl
    exact run.settled
  · rintro rfl
    obtain ⟨fresh, _, same⟩ := run.once
    obtain ⟨rfl, rfl⟩ := List.append_inj same (by rw [sizes, List.length_map])
    refine ⟨rfl, fun die member => ?_⟩
    obtain ⟨face, _, rfl⟩ := List.mem_map.mp member
    rfl

theorem Modifier.reroll_balanced_thrice :
    let rolls : List Die := [⟨1, none, some (.keepHigh 3), []⟩, ⟨6, none, none, []⟩,
      ⟨2, none, none, [⟨1, 2, .minimum 2⟩]⟩, ⟨3, none, none, []⟩]
    let table := (reroll (.atMost 2) true).applyWithin 5 ⟨4, 6, []⟩ rolls (.queue [1, 2, 5, 4])
    table.error = none ∧
      table.rolls.map Die.isKept = [false, true, false, true, false, false, true] ∧
      ∃ earlier added, table.rolls = earlier ++ added ∧
      Balanced (reroll (.atMost 2) true) rolls earlier added ∧
        (true = true → ∀ die ∈ earlier ++ added, die.isKept = true →
          (Condition.atMost 2).meets die.value = false) ∧
        (true = false → earlier = rolls.map (Die.passed (reroll (.atMost 2) true) (.atMost 2)) ∧
          ∀ die ∈ added, die.isKept = true) :=
  ⟨by decide, by decide, reroll_balanced (by decide)⟩

end Tabletop
