import Tabletop.Proofs.Rolling.Step

/-! What the dice of a rolled set remember. A die that lies on the table keeps its place, its face
and its origin, and its changes lead from the face to the value, whatever modifiers come and in
whatever order. -/
namespace Tabletop

namespace Change

def Chain : UInt8 → List Change → UInt8 → Prop
  | start, [], stop => start = stop
  | start, change :: others, stop => change.before = start ∧ Chain change.after others stop

def Lawful (change : Change) : Prop :=
  match change.cause with
  | .minimum _ => change.before < change.after
  | .maximum _ => change.after < change.before
  | _ => False

theorem Chain.append {start mid stop : UInt8} {changes others : List Change}
    (first : Chain start changes mid) (second : Chain mid others stop) :
    Chain start (changes ++ others) stop := by
  induction changes generalizing start with
  | nil =>
    obtain rfl : start = mid := first
    exact second
  | cons change changes ih => exact ⟨first.1, ih first.2⟩

theorem lawful_of_clamps {cause : Modifier} {before after : UInt8}
    (clamps : cause.Clamps before after) : Lawful ⟨before, after, cause⟩ := by
  cases cause with
  | minimum least =>
    obtain ⟨below, rfl⟩ := clamps
    exact UInt8.lt_iff_toNat_lt.mpr below
  | maximum greatest =>
    obtain ⟨above, rfl⟩ := clamps
    exact UInt8.lt_iff_toNat_lt.mpr above
  | reroll | explode | keepHigh | keepLow => exact clamps

end Change

namespace Die

structure Lawful (die : Die) : Prop where
  chain : Change.Chain die.natural die.changes die.value
  changes : ∀ change ∈ die.changes, change.Lawful
  added : ∀ cause, die.addedBy = some cause → cause.addsDice = true
  dropped : ∀ cause, die.droppedBy = some cause → cause.dropsDice = true

/-- The die later on: it has the same face and origin, and once it is dropped it is left alone. -/
structure Continues (die later : Die) : Prop where
  natural : later.natural = die.natural
  addedBy : later.addedBy = die.addedBy
  dropped : die.isKept = false → later = die

theorem natural_change (cause : Modifier) (value : UInt8) (die : Die) :
    (die.change cause value).natural = die.natural := by
  unfold natural change
  cases die.changes <;> rfl

theorem lawful_face (face : UInt8) : Lawful { value := face } where
  chain := rfl
  changes := by simp
  added := by simp
  dropped := by simp

theorem lawful_added {cause : Modifier} (adds : cause.addsDice = true) (face : UInt8) :
    (Die.added cause face).Lawful where
  chain := rfl
  changes := by simp [added, add]
  added := by
    intro other same
    obtain rfl : cause = other := Option.some.inj same
    exact adds
  dropped := by simp [added, add]

end Die

namespace Touched

variable {cause : Modifier} {die later : Die}

theorem continues (touched : Touched cause die later) : die.Continues later := by
  cases touched with
  | same => exact ⟨rfl, rfl, fun _ => rfl⟩
  | dropped kept _ => exact ⟨rfl, rfl, fun gone => by simp [kept] at gone⟩
  | changed kept _ => exact ⟨Die.natural_change _ _ _, rfl, fun gone => by simp [kept] at gone⟩

theorem lawful (touched : Touched cause die later) (lawful : die.Lawful) : later.Lawful := by
  cases touched with
  | same => exact lawful
  | dropped kept drops =>
    refine ⟨lawful.chain, lawful.changes, lawful.added, fun other same => ?_⟩
    have fresh : die.droppedBy = none := Option.isNone_iff_eq_none.mp kept
    obtain rfl : cause = other := by simpa [Die.drop, fresh] using same
    exact drops
  | changed _ clamps =>
    refine ⟨?_, fun change member => ?_, lawful.added, lawful.dropped⟩
    · rw [Die.natural_change]
      exact lawful.chain.append ⟨rfl, rfl⟩
    · rcases List.mem_append.mp member with old | new
      · exact lawful.changes change old
      · obtain rfl := List.mem_singleton.mp new
        exact Change.lawful_of_clamps clamps

theorem all_lawful {rolls after : List Die} (touched : List.Forall₂ (Touched cause) rolls after)
    (lawful : ∀ die ∈ rolls, die.Lawful) : ∀ die ∈ after, die.Lawful := by
  induction touched with
  | nil => exact lawful
  | cons first _ ih =>
    rw [List.forall_mem_cons] at lawful ⊢
    exact ⟨first.lawful lawful.1, ih lawful.2⟩

end Touched

namespace Spread

variable {cause : Modifier} {rolls after : List Die} {drawn : List UInt8}

theorem continues (spread : Spread cause rolls drawn after) {position : Nat} {die : Die}
    (present : rolls[position]? = some die) :
    ∃ later, after[position]? = some later ∧ die.Continues later := by
  obtain ⟨here, rfl⟩ := List.getElem?_eq_some_iff.mp present
  have inside : position < after.length := by
    have := spread.touched.length_eq
    rw [List.length_append] at this
    omega
  have touched := spread.touched.get (Nat.lt_of_lt_of_le here (by simp)) inside
  simp only [List.get_eq_getElem, List.getElem_append_left here] at touched
  exact ⟨_, List.getElem?_eq_getElem inside, touched.continues⟩

theorem lawful (spread : Spread cause rolls drawn after) (lawful : ∀ die ∈ rolls, die.Lawful) :
    ∀ die ∈ after, die.Lawful := by
  refine Touched.all_lawful spread.touched fun die member => ?_
  rcases List.mem_append.mp member with old | new
  · exact lawful die old
  · obtain ⟨face, among, rfl⟩ := List.mem_map.mp new
    exact Die.lawful_added (spread.adds (List.ne_nil_of_mem among)) face

end Spread

theorem Dice.rolls_of_rollPlain {dice : Dice} {faces rest : Faces} {rolled : Rolled}
    (plain : dice.rollPlain.run faces = (.ok rolled, rest)) :
    ∃ values, rolled.rolls = (Rolled.ofFaces dice values).rolls := by
  obtain ⟨values, _, _, _, _, rfl, _⟩ := Dice.rollWith_run_eq_ok plain
  exact ⟨values, rfl⟩

/-- The rolls that modifiers can make of dice, one after the other, from given faces or from plain
rolls. -/
inductive Reached (dice : Dice) : List Die → Prop where
  | ofFaces (values : List UInt8) : Reached dice (Rolled.ofFaces dice values).rolls
  | plain {faces rest : Faces} {rolled : Rolled} : dice.rollPlain.run faces = (.ok rolled, rest) →
      Reached dice rolled.rolls
  | step {rolls : List Die} (modifier : Modifier) (passes : Nat) (faces : Faces) :
      Reached dice rolls → Reached dice (modifier.applyWithin passes dice rolls faces).rolls

namespace Reached

variable {dice : Dice} {rolls : List Die}

theorem lawful (reached : Reached dice rolls) : ∀ die ∈ rolls, die.Lawful := by
  have faces (values : List UInt8) : ∀ die ∈ (Rolled.ofFaces dice values).rolls, die.Lawful := by
    intro die member
    obtain ⟨face, _, rfl⟩ := List.mem_map.mp member
    exact Die.lawful_face face
  induction reached with
  | ofFaces values => exact faces values
  | plain rolled =>
    obtain ⟨values, same⟩ := Dice.rolls_of_rollPlain rolled
    exact same ▸ faces values
  | step modifier passes source _ ih =>
    rcases modifier.applyWithin_step passes dice _ source with refused | ⟨drawn, step⟩
    · exact refused ▸ ih
    · exact step.spread.lawful ih

/-- The invariant of a run. Whatever was reached and whatever modifier comes next, all histories are
in order before and after it, each die continues at its position, and a refusal leaves dice and
faces alone. -/
theorem history (reached : Reached dice rolls) (modifier : Modifier) (passes : Nat)
    (faces : Faces) : let table := modifier.applyWithin passes dice rolls faces
    (∀ die ∈ rolls, die.Lawful) ∧ (∀ die ∈ table.rolls, die.Lawful) ∧
      (∀ (position : Nat) (die : Die), rolls[position]? = some die →
        ∃ later, table.rolls[position]? = some later ∧ die.Continues later) ∧
      ∀ refused, table.error = some (.endless refused) →
        table.rolls = rolls ∧ table.faces = faces := by
  refine ⟨reached.lawful, (reached.step modifier passes faces).lawful, ?_⟩
  rcases modifier.applyWithin_step passes dice rolls faces with refused | ⟨drawn, step⟩
  · rw [refused]
    exact ⟨fun _ die present => ⟨die, present, rfl, rfl, fun _ => rfl⟩, fun _ _ => ⟨rfl, rfl⟩⟩
  · exact ⟨fun _ _ present => step.spread.continues present,
      fun dice error => absurd error (step.started dice)⟩

theorem history_raised_rerolled :
    let dice : Dice := ⟨4, 6, []⟩
    let raised :=
      ((Modifier.minimum 2).applyTo dice (Rolled.ofFaces dice [3, 6, 1, 2]).rolls (.queue [])).rolls
    let table := (Modifier.reroll (.atMost 2) true).applyWithin 5 dice raised (.queue [5, 2, 4, 6])
    (table.rolls.map Die.natural = [3, 6, 1, 2, 5, 2, 4] ∧ table.rolls.map Die.isKept =
        [true, true, false, false, true, false, true]) ∧
      (∀ die ∈ raised, die.Lawful) ∧ (∀ die ∈ table.rolls, die.Lawful) ∧
      (∀ (position : Nat) (die : Die), raised[position]? = some die →
        ∃ later, table.rolls[position]? = some later ∧ die.Continues later) ∧
      ∀ refused, table.error = some (.endless refused) →
        table.rolls = raised ∧ table.faces = .queue [5, 2, 4, 6] :=
  ⟨by decide, history (.step _ _ _ (.ofFaces [3, 6, 1, 2])) (.reroll (.atMost 2) true) 5
    (.queue [5, 2, 4, 6])⟩

end Reached

end Tabletop
