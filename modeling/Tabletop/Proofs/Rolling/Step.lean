import Mathlib.Data.List.Forall2
import Tabletop.Dice.Rolling
import Tabletop.Proofs.Rolling.Faces

/-! What one modifier can do to the dice on the table. Every die that lay there stays in its place
and is touched at most once; dice for drawn faces come behind, and only a reroll or an explosion has
any. A roll that comes to its end took such a step for each of its modifiers. -/
namespace Tabletop

namespace Modifier

def addsDice : Modifier → Bool
  | reroll _ _ | explode _ _ => true
  | _ => false

def dropsDice : Modifier → Bool
  | reroll _ _ | keepHigh _ | keepLow _ => true
  | _ => false

def Clamps : Modifier → UInt8 → UInt8 → Prop
  | minimum least, before, after => before.toNat < least.toNat ∧ after = least
  | maximum greatest, before, after => greatest.toNat < before.toNat ∧ after = greatest
  | _, _, _ => False

theorem not_clamps_of_addsDice {modifier : Modifier} (adds : modifier.addsDice = true)
    (before after : UInt8) : ¬ modifier.Clamps before after := by
  cases modifier <;> simp_all [addsDice, Clamps]

end Modifier

/-- A die before and after a modifier. Only a kept die is dropped or changed. -/
inductive Touched (cause : Modifier) : Die → Die → Prop where
  | same {die : Die} : Touched cause die die
  | dropped {die : Die} : die.isKept = true → cause.dropsDice = true →
      Touched cause die (die.drop cause)
  | changed {die : Die} {value : UInt8} : die.isKept = true → cause.Clamps die.value value →
      Touched cause die (die.change cause value)

theorem Touched.trans {cause : Modifier} {a b c : Die} (adds : cause.addsDice = true)
    (first : Touched cause a b) (second : Touched cause b c) : Touched cause a c := by
  cases first with
  | same => exact second
  | changed _ clamps => exact absurd clamps (Modifier.not_clamps_of_addsDice adds _ _)
  | dropped kept drops =>
    cases second with
    | same => exact .dropped kept drops
    | changed _ clamps => exact absurd clamps (Modifier.not_clamps_of_addsDice adds _ _)
    | dropped again _ => simp [Die.isKept, Die.drop] at again

theorem Touched.all_same (cause : Modifier) (rolls : List Die) :
    List.Forall₂ (Touched cause) rolls rolls :=
  List.forall₂_same.mpr fun _ _ => .same

theorem Touched.all_trans {cause : Modifier} (adds : cause.addsDice = true)
    {before mid after : List Die} (first : List.Forall₂ (Touched cause) before mid)
    (second : List.Forall₂ (Touched cause) mid after) :
    List.Forall₂ (Touched cause) before after := by
  induction first generalizing after with
  | nil => exact second
  | cons start _ ih =>
    cases second with
    | cons finish others => exact .cons (start.trans adds finish) (ih others)

/-- The rolls before and after a modifier that added dice for the drawn faces. -/
structure Spread (cause : Modifier) (before : List Die) (drawn : List UInt8) (after : List Die) :
    Prop where
  touched : List.Forall₂ (Touched cause) (before ++ drawn.map (Die.added cause)) after
  adds : drawn ≠ [] → cause.addsDice = true

namespace Spread

variable {cause : Modifier}

theorem of_touched {before after : List Die} (touched : List.Forall₂ (Touched cause) before after) :
    Spread cause before [] after :=
  ⟨by simpa using touched, fun drew => absurd rfl drew⟩

theorem append {before mid : List Die} (touched : List.Forall₂ (Touched cause) before mid)
    (drawn : List UInt8) (adds : cause.addsDice = true) :
    Spread cause before drawn (mid ++ drawn.map (Die.added cause)) :=
  ⟨List.rel_append touched (Touched.all_same _ _), fun _ => adds⟩

theorem trans {before mid after : List Die} {drawn more : List UInt8} (adds : cause.addsDice = true)
    (first : Spread cause before drawn mid) (second : Spread cause mid more after) :
    Spread cause before (drawn ++ more) after := by
  refine ⟨?_, fun _ => adds⟩
  have start := List.rel_append first.touched (Touched.all_same cause (more.map (Die.added cause)))
  rw [List.map_append, ← List.append_assoc]
  exact Touched.all_trans adds start second.touched

end Spread

/-- What a modifier that was not refused does: faces drawn for dice become dice, and only a roll
that is broken off loses others. -/
structure Step (cause : Modifier) (sides : UInt8) (rolls : List Die) (faces : Faces)
    (drawn : List UInt8) (table : Table) : Prop where
  spread : Spread cause rolls drawn table.rolls
  gives : ∃ lost, faces.Gives sides (drawn ++ lost) table.faces ∧ (table.error = none → lost = [])
  started : ∀ dice, table.error ≠ some (.endless dice)

namespace Step

variable {cause : Modifier} {sides : UInt8} {rolls mid : List Die} {faces rest : Faces}
    {drawn more : List UInt8} {table : Table}

theorem still {after : List Die} (touched : List.Forall₂ (Touched cause) rolls after) :
    Step cause sides rolls faces [] ⟨after, faces, none⟩ :=
  ⟨.of_touched touched, ⟨[], .nil, fun _ => rfl⟩, by simp⟩

theorem broken {after : List Die} (touched : List.Forall₂ (Touched cause) rolls after)
    (gives : faces.Gives sides drawn rest) :
    Step cause sides rolls faces [] ⟨after, rest, some .unfinished⟩ :=
  ⟨.of_touched touched, ⟨drawn, gives, by simp⟩, by simp⟩

theorem done (spread : Spread cause rolls drawn mid) (gives : faces.Gives sides drawn rest) :
    Step cause sides rolls faces drawn ⟨mid, rest, none⟩ :=
  ⟨spread, ⟨[], by simpa using gives, fun _ => rfl⟩, by simp⟩

theorem later (adds : cause.addsDice = true) (spread : Spread cause rolls drawn mid)
    (gives : faces.Gives sides drawn rest) (step : Step cause sides mid rest more table) :
    Step cause sides rolls faces (drawn ++ more) table := by
  obtain ⟨lost, others, whole⟩ := step.gives
  refine ⟨spread.trans adds step.spread, ⟨lost, ?_, whole⟩, step.started⟩
  rw [List.append_assoc]
  exact gives.append others

end Step

theorem dropMeeting_touched {cause : Modifier} (drops : cause.dropsDice = true)
    (condition : Condition) (count : Nat) (rolls : List Die) :
    List.Forall₂ (Touched cause) rolls (dropMeeting cause condition count rolls) := by
  fun_induction dropMeeting cause condition count rolls with
  | case1 rolls => exact Touched.all_same _ _
  | case2 => exact .nil
  | case3 count die rolls concerned ih =>
    exact .cons (.dropped (Bool.and_eq_true_iff.mp concerned).1 drops) ih
  | case4 count die rolls _ ih => exact .cons .same ih

theorem rerollPasses_step {cause : Modifier} (adds : cause.addsDice = true)
    (drops : cause.dropsDice = true) (condition : Condition) (sides : UInt8) (recurse : Bool)
    (passes : Nat) (rolls : List Die) (faces : Faces) :
    ∃ drawn, Step cause sides rolls faces drawn
      (rerollPasses cause condition sides recurse passes rolls faces) := by
  induction passes generalizing rolls faces with
  | zero => exact ⟨[], .broken (Touched.all_same _ _) .nil⟩
  | succ passes ih =>
    let count := rolls.countP condition.concerns
    have gives := Faces.gives_draw sides count faces
    have touched := dropMeeting_touched drops condition count rolls
    unfold rerollPasses
    dsimp only
    split
    · exact ⟨[], .broken (dropMeeting_touched drops condition _ rolls) gives⟩
    · split
      · obtain ⟨more, step⟩ := ih _ _
        exact ⟨_, .later adds (.append touched _ adds) gives step⟩
      · exact ⟨_, .done (.append touched _ adds) gives⟩

theorem explosionWaves_step {cause : Modifier} (adds : cause.addsDice = true)
    (condition : Condition)
    (sides : UInt8) (recurse : Bool) (passes count : Nat) (rolls : List Die) (faces : Faces) :
    ∃ drawn, Step cause sides rolls faces drawn
      (explosionWaves cause condition sides recurse passes count rolls faces) := by
  induction passes generalizing count rolls faces with
  | zero => exact ⟨[], .broken (Touched.all_same _ _) .nil⟩
  | succ passes ih =>
    have gives := Faces.gives_draw sides count faces
    have touched := Touched.all_same cause rolls
    unfold explosionWaves
    dsimp only
    split
    · exact ⟨[], .broken touched gives⟩
    · split
      · obtain ⟨more, step⟩ := ih _ _ _
        exact ⟨_, .later adds (.append touched _ adds) gives step⟩
      · exact ⟨_, .done (.append touched _ adds) gives⟩

theorem of_mem_ranking {rolls : List Die} {die : Die} {position : Nat}
    (ranked : (die, position) ∈ ranking rolls) :
    rolls[position]? = some die ∧ die.isKept = true := by
  rw [ranking, List.mem_mergeSort, List.mem_filter] at ranked
  exact ⟨List.mem_zipIdx_iff_getElem?.mp ranked.1, ranked.2⟩

theorem dropRanked_touched {cause : Modifier} (drops : cause.dropsDice = true) {rolls : List Die}
    {ranked : List (Die × Nat)} (among : ranked ⊆ ranking rolls) :
    List.Forall₂ (Touched cause) rolls (dropRanked cause ranked rolls) := by
  refine List.forall₂_of_length_eq_of_get (by simp [dropRanked]) fun i here there => ?_
  simp only [dropRanked, List.get_eq_getElem, List.getElem_mapIdx]
  split
  · next named =>
    obtain ⟨⟨die, _⟩, member, rfl⟩ := List.mem_map.mp (List.contains_iff_mem.mp named)
    obtain ⟨found, kept⟩ := of_mem_ranking (among member)
    obtain ⟨_, rfl⟩ := List.getElem?_eq_some_iff.mp found
    exact .dropped kept drops
  · exact .same

theorem clampKept_touched {cause : Modifier} {clamp : UInt8 → Option UInt8}
    (clamps : ∀ before after, clamp before = some after → cause.Clamps before after)
    (rolls : List Die) : List.Forall₂ (Touched cause) rolls (clampKept cause clamp rolls) := by
  refine List.forall₂_map_right_iff.mpr (List.forall₂_same.mpr fun die _ => ?_)
  split
  · next kept =>
    split
    · next value clamped => exact .changed kept (clamps _ _ clamped)
    · exact .same
  · exact .same

theorem Modifier.applyWithin_step (passes : Nat) (modifier : Modifier) (dice : Dice)
    (rolls : List Die) (faces : Faces) :
    modifier.applyWithin passes dice rolls faces = ⟨rolls, faces, some (.endless dice)⟩ ∨
      ∃ drawn, Step modifier dice.sides rolls faces drawn
        (modifier.applyWithin passes dice rolls faces) := by
  cases modifier with
  | reroll condition recurse =>
    simp only [applyWithin]
    split
    · exact .inl rfl
    · exact .inr (rerollPasses_step rfl rfl condition dice.sides recurse passes rolls faces)
  | explode condition recurse =>
    simp only [applyWithin]
    split
    · exact .inl rfl
    · exact .inr (explosionWaves_step rfl _ dice.sides recurse passes _ rolls faces)
  | keepHigh count =>
    refine .inr ⟨[], .still (dropRanked_touched rfl fun ranked member => ?_)⟩
    exact List.mem_reverse.mp (List.mem_of_mem_drop member)
  | keepLow count =>
    exact .inr ⟨[], .still (dropRanked_touched rfl fun ranked member =>
      List.mem_of_mem_drop member)⟩
  | minimum least =>
    refine .inr ⟨[], .still (clampKept_touched (fun before after clamped => ?_) rolls)⟩
    simpa [Clamps, eq_comm] using clamped
  | maximum greatest =>
    refine .inr ⟨[], .still (clampKept_touched (fun before after clamped => ?_) rolls)⟩
    simpa [Clamps, eq_comm] using clamped

theorem Modifier.step_of_done {passes : Nat} {modifier : Modifier} {dice : Dice} {rolls : List Die}
    {faces : Faces} (done : (modifier.applyWithin passes dice rolls faces).error = none) :
    ∃ drawn, Step modifier dice.sides rolls faces drawn
      (modifier.applyWithin passes dice rolls faces) := by
  rcases modifier.applyWithin_step passes dice rolls faces with refused | stepped
  · rw [refused] at done
    cases done
  · exact stepped

theorem applyAll_cons_of_done {dice : Dice} {modifier : Modifier} {others : List Modifier}
    {rolls : List Die} {faces : Faces}
    (done : (applyAll dice (modifier :: others) rolls faces).error = none) :
    (modifier.applyTo dice rolls faces).error = none ∧
      applyAll dice (modifier :: others) rolls faces =
        applyAll dice others (modifier.applyTo dice rolls faces).rolls
          (modifier.applyTo dice rolls faces).faces := by
  rw [applyAll] at done ⊢
  cases error : (modifier.applyTo dice rolls faces).error with
  | some cause => simp only [error, reduceCtorEq] at done
  | none => exact ⟨rfl, rfl⟩

theorem Dice.rollWith_run_eq_ok {dice : Dice} {modifiers : List Modifier} {faces rest : Faces}
    {rolled : Rolled} (done : (dice.rollWith modifiers).run faces = (.ok rolled, rest)) :
    ∃ drawn mid, faces.draw dice.sides dice.count.toNat = (drawn, mid) ∧
      drawn.length = dice.count.toNat ∧
      (applyAll dice modifiers (Rolled.ofFaces dice drawn).rolls mid).error = none ∧
      rolled = ⟨dice, (applyAll dice modifiers (Rolled.ofFaces dice drawn).rolls mid).rolls⟩ ∧
      rest = (applyAll dice modifiers (Rolled.ofFaces dice drawn).rolls mid).faces := by
  simp only [rollWith, ExceptT.run] at done
  split at done
  · cases done
  · next enough =>
    have count := Nat.le_antisymm (Faces.length_draw_le _ _) (Nat.not_lt.mp enough)
    split at done
    · cases done
    · next whole =>
      cases done
      exact ⟨_, _, rfl, count, whole, rfl, rfl⟩

end Tabletop
