import Tabletop.Arithmetic
import Tabletop.Proofs.Rolling.Ending
import Tabletop.Proofs.Rolling.Faces

/-! Arithmetic without chance. One-sided dice can only show 1, whatever modifiers they have: every
modifier is refused or done after two passes, so all sources of faces lead to the same result, and
evaluation ends. -/
namespace Tabletop

namespace Faces

def endless : Faces → Bool
  | queue _ => false
  | stream _ _ => true

/-- The source lands every one-sided die on 1. -/
def OnlyOnes : Faces → Prop
  | queue faces => ∀ face ∈ faces, face = 1
  | stream face next => ∀ number, next ≤ number → face number 1 = 1

theorem onlyOnes_highest (next : Nat) : (stream (fun _ sides => sides) next).OnlyOnes :=
  fun _ _ => rfl

theorem onlyOnes_seeded (seed : UInt64) : (seeded seed).OnlyOnes := by
  intro number _
  have lands := lands_faceOf (mixed seed number) 1
  rw [Lands, if_neg (by decide)] at lands
  exact UInt8.toNat_inj.mp (Nat.le_antisymm lands.2 lands.1)

structure Continues (faces rest : Faces) : Prop where
  ones : rest.OnlyOnes
  endless : rest.endless = faces.endless

theorem Continues.trans {first mid last : Faces} (start : Continues first mid)
    (later : Continues mid last) : Continues first last :=
  ⟨later.ones, later.endless.trans start.endless⟩

theorem OnlyOnes.next {faces rest : Faces} {face : UInt8} (ones : faces.OnlyOnes)
    (next : faces.next? 1 = some (face, rest)) : face = 1 ∧ faces.Continues rest := by
  cases faces with
  | queue faces =>
    cases faces with
    | nil => cases next
    | cons _ others =>
      cases next
      exact ⟨ones _ List.mem_cons_self,
        fun later member => ones later (List.mem_cons_of_mem _ member), rfl⟩
  | stream face number =>
    cases next
    exact ⟨ones number (Nat.le_refl number),
      fun later above => ones later (Nat.le_of_succ_le above), rfl⟩

theorem OnlyOnes.draw {faces : Faces} (ones : faces.OnlyOnes) (count : Nat) :
    (∃ rest, faces.draw 1 count = (List.replicate count 1, rest) ∧ faces.Continues rest) ∨
      faces.endless = false ∧ (faces.draw 1 count).1.length < count := by
  induction count generalizing faces with
  | zero => exact .inl ⟨faces, rfl, ones, rfl⟩
  | succ count ih =>
    unfold Faces.draw
    cases next : faces.next? 1 with
    | none =>
      refine .inr ⟨?_, Nat.succ_pos count⟩
      cases faces with
      | queue faces => rfl
      | stream face number => cases next
    | some drawn =>
      obtain ⟨face, rest⟩ := drawn
      obtain ⟨rfl, continues⟩ := ones.next next
      rcases ih continues.ones with ⟨last, drawn, later⟩ | ⟨ends, short⟩
      · exact .inl ⟨last, by simp only [drawn]; rfl, continues.trans later⟩
      · exact .inr ⟨continues.endless ▸ ends, Nat.succ_lt_succ short⟩

end Faces

section Passes

variable {cause : Modifier} {condition : Condition} {recurse : Bool} {passes : Nat}
    {rolls : List Die} {faces rest : Faces}

theorem concerns_added (cause : Modifier) (condition : Condition) (face : UInt8) :
    condition.concerns (Die.added cause face) = condition.meets face := rfl

theorem rerollPasses_ones (misses : recurse = true → condition.meets 1 = false)
    (enough : 2 ≤ passes)
    (drawn : faces.draw 1 (rolls.countP condition.concerns) =
      (List.replicate (rolls.countP condition.concerns) 1, rest)) :
    rerollPasses cause condition 1 recurse passes rolls faces =
      ⟨dropMeeting cause condition (rolls.countP condition.concerns) rolls ++
        List.replicate (rolls.countP condition.concerns) (Die.added cause 1), rest, none⟩ := by
  obtain ⟨passes, rfl⟩ := Nat.exists_eq_add_of_le' enough
  rw [rerollPasses]
  simp only [drawn, List.length_replicate, Nat.lt_irrefl, if_false, List.map_replicate]
  split
  · next again =>
    have fresh : (dropMeeting cause condition (rolls.countP condition.concerns) rolls ++
        List.replicate (rolls.countP condition.concerns)
          (Die.added cause 1)).countP condition.concerns = 0 := by
      simp [List.countP_append, countP_dropMeeting, List.countP_replicate, concerns_added,
        misses (Bool.and_eq_true_iff.mp again).1]
    rw [rerollPasses]
    simp [fresh, Faces.draw, dropMeeting]
  · rfl

theorem explosionWaves_ones {count : Nat} (misses : recurse = true → condition.meets 1 = false)
    (enough : 2 ≤ passes) (drawn : faces.draw 1 count = (List.replicate count 1, rest)) :
    explosionWaves cause condition 1 recurse passes count rolls faces =
      ⟨rolls ++ List.replicate count (Die.added cause 1), rest, none⟩ := by
  obtain ⟨passes, rfl⟩ := Nat.exists_eq_add_of_le' enough
  rw [explosionWaves]
  simp only [drawn, List.length_replicate, Nat.lt_irrefl, if_false, List.map_replicate]
  split
  · next again =>
    have fresh : (List.replicate count (Die.added cause 1)).countP condition.concerns = 0 := by
      simp [List.countP_replicate, concerns_added, misses (Bool.and_eq_true_iff.mp again).1]
    rw [explosionWaves]
    simp [fresh, Faces.draw]
  · rfl

theorem rerollPasses_short (positive : 0 < passes) {sides : UInt8}
    (short : (faces.draw sides (rolls.countP condition.concerns)).1.length <
      rolls.countP condition.concerns) :
    (rerollPasses cause condition sides recurse passes rolls faces).error = some .unfinished := by
  obtain ⟨passes, rfl⟩ := Nat.exists_eq_add_of_le' positive
  rw [rerollPasses]
  simp only [short, if_true]

theorem explosionWaves_short (positive : 0 < passes) {sides : UInt8} {count : Nat}
    (short : (faces.draw sides count).1.length < count) :
    (explosionWaves cause condition sides recurse passes count rolls faces).error =
      some .unfinished := by
  obtain ⟨passes, rfl⟩ := Nat.exists_eq_add_of_le' positive
  rw [explosionWaves]
  simp only [short, if_true]

theorem rerollPasses_more {sides : UInt8} {more : Nat}
    (ended : (rerollPasses cause condition sides recurse passes rolls faces).error ≠
      some .unfinished) (least : passes ≤ more) :
    rerollPasses cause condition sides recurse more rolls faces =
      rerollPasses cause condition sides recurse passes rolls faces := by
  induction passes generalizing more rolls faces with
  | zero => exact absurd rfl ended
  | succ passes ih =>
    obtain ⟨more, rfl⟩ := Nat.exists_eq_add_of_le' (Nat.le_trans (Nat.le_add_left 1 passes) least)
    simp only [rerollPasses] at ended ⊢
    split
    · rfl
    · next given =>
      rw [if_neg given] at ended
      split
      · next again =>
        rw [if_pos again] at ended
        exact ih ended (Nat.le_of_succ_le_succ least)
      · rfl

theorem explosionWaves_more {sides : UInt8} {count more : Nat}
    (ended : (explosionWaves cause condition sides recurse passes count rolls faces).error ≠
      some .unfinished) (least : passes ≤ more) :
    explosionWaves cause condition sides recurse more count rolls faces =
      explosionWaves cause condition sides recurse passes count rolls faces := by
  induction passes generalizing more count rolls faces with
  | zero => exact absurd rfl ended
  | succ passes ih =>
    obtain ⟨more, rfl⟩ := Nat.exists_eq_add_of_le' (Nat.le_trans (Nat.le_add_left 1 passes) least)
    simp only [explosionWaves] at ended ⊢
    split
    · rfl
    · next given =>
      rw [if_neg given] at ended
      split
      · next again =>
        rw [if_pos again] at ended
        exact ih ended (Nat.le_of_succ_le_succ least)
      · rfl

theorem Modifier.applyWithin_more {modifier : Modifier} {dice : Dice} {more : Nat}
    (ended : (modifier.applyWithin passes dice rolls faces).error ≠ some .unfinished)
    (least : passes ≤ more) :
    modifier.applyWithin more dice rolls faces = modifier.applyWithin passes dice rolls faces := by
  cases modifier with
  | reroll condition recurse =>
    simp only [applyWithin] at ended ⊢
    split
    · rfl
    · next started =>
      rw [if_neg started] at ended
      exact rerollPasses_more ended least
  | explode condition recurse =>
    simp only [applyWithin] at ended ⊢
    split
    · rfl
    · next started =>
      rw [if_neg started] at ended
      exact explosionWaves_more ended least
  | keepHigh | keepLow | minimum | maximum => rfl

end Passes

/-- The table shows the given rolls, or the queue that the faces came from has ended. -/
inductive Table.Shows (faces : Faces) (rolls : List Die) (refusal : Option RollError) :
    Table → Prop where
  | whole {rest : Faces} : faces.Continues rest → Shows faces rolls refusal ⟨rolls, rest, refusal⟩
  | short {table : Table} : faces.endless = false → table.error = some .unfinished →
      Shows faces rolls refusal table

theorem Table.Shows.trans {faces rest : Faces} {rolls : List Die} {refusal : Option RollError}
    {table : Table} (later : Shows rest rolls refusal table) (start : faces.Continues rest) :
    Shows faces rolls refusal table := by
  cases later with
  | whole continues => exact .whole (start.trans continues)
  | short ends error => exact .short (start.endless ▸ ends) error

namespace Modifier

theorem misses_one {condition : Condition} {recurse : Bool}
    (started : ¬ (recurse && condition.coversEveryFace 1) = true) (again : recurse = true) :
    condition.meets 1 = false := by
  have uncovered : condition.coversEveryFace 1 = false := by simpa [again] using started
  simpa [Condition.coversEveryFace, Condition.meets] using uncovered

theorem exists_shows (modifier : Modifier) {dice : Dice} (sided : dice.sides = 1)
    (rolls : List Die) :
    ∃ after refusal, refusal ≠ some .unfinished ∧ ∀ passes faces, 2 ≤ passes → faces.OnlyOnes →
      Table.Shows faces after refusal (modifier.applyWithin passes dice rolls faces) := by
  cases modifier with
  | reroll condition recurse =>
    simp only [applyWithin, sided]
    split
    · exact ⟨rolls, some (.endless dice), by simp, fun _ faces _ ones => .whole ⟨ones, rfl⟩⟩
    · next started =>
      let count := rolls.countP condition.concerns
      let cause := Modifier.reroll condition recurse
      refine ⟨dropMeeting cause condition count rolls ++ List.replicate count (Die.added cause 1),
        none, by simp, fun passes faces enough ones => ?_⟩
      rcases ones.draw count with ⟨rest, drawn, continues⟩ | ⟨ends, short⟩
      · rw [rerollPasses_ones (misses_one started) enough drawn]
        exact .whole continues
      · exact .short ends (rerollPasses_short (Nat.lt_of_succ_lt enough) short)
  | explode condition recurse =>
    simp only [applyWithin, sided]
    split
    · exact ⟨rolls, some (.endless dice), by simp, fun _ faces _ ones => .whole ⟨ones, rfl⟩⟩
    · next started =>
      let count := rolls.countP (condition.getD (.atLeast 1)).concerns
      refine ⟨rolls ++ List.replicate count (Die.added (.explode condition recurse) 1), none,
        by simp, fun passes faces enough ones => ?_⟩
      rcases ones.draw count with ⟨rest, drawn, continues⟩ | ⟨ends, short⟩
      · rw [explosionWaves_ones (misses_one started) enough drawn]
        exact .whole continues
      · exact .short ends (explosionWaves_short (Nat.lt_of_succ_lt enough) short)
  | keepHigh count | keepLow count | minimum least | maximum greatest =>
    exact ⟨_, none, by simp, fun _ faces _ ones => .whole (⟨ones, rfl⟩ : faces.Continues faces)⟩

theorem ends_within_two (modifier : Modifier) {dice : Dice} (sided : dice.sides = 1)
    (rolls : List Die) (number : Nat) :
    (modifier.applyWithin 2 dice rolls (.stream (fun _ sides => sides) number)).error ≠
      some .unfinished := by
  obtain ⟨after, refusal, finished, shows_⟩ := modifier.exists_shows sided rolls
  have table := shows_ 2 _ (Nat.le_refl 2) (Faces.onlyOnes_highest number)
  generalize modifier.applyWithin 2 dice rolls _ = applied at table
  cases table with
  | whole _ => exact finished
  | short ends _ => cases ends

theorem applyTo_shows {modifier : Modifier} {dice : Dice} {rolls after : List Die}
    {refusal : Option RollError} {faces : Faces} (shows_ : ∀ passes, 2 ≤ passes →
      Table.Shows faces after refusal (modifier.applyWithin passes dice rolls faces)) :
    Table.Shows faces after refusal (modifier.applyTo dice rolls faces) := by
  cases faces with
  | queue faces =>
    rw [← applyWithin_queue modifier dice rolls (show faces.length < faces.length + 2 by omega)]
    exact shows_ _ (Nat.le_add_left 2 _)
  | stream face next => exact shows_ _ (show 2 ≤ 1000000 by decide)

end Modifier

inductive Rolling.Agrees {α : Type} (faces : Faces) (result : Except RollError α) :
    Except RollError α × Faces → Prop where
  | whole {rest : Faces} : faces.Continues rest → Agrees faces result (result, rest)
  | short {rest : Faces} : faces.endless = false → Agrees faces result (.error .unfinished, rest)

/-- Every source of ones leads to one result, and the work never gives up. -/
def Rolling.Fixed {α : Type} (action : Rolling α) : Prop :=
  ∃ result, result ≠ .error .unfinished ∧ ∀ faces : Faces, faces.OnlyOnes →
    Agrees faces result (action.run faces)

namespace Rolling

variable {α β : Type}

theorem fixed_pure (a : α) : Fixed (pure a) :=
  ⟨.ok a, by simp, fun faces ones => .whole (⟨ones, rfl⟩ : faces.Continues faces)⟩

theorem Fixed.bind {action : Rolling α} {next : α → Rolling β} (first : Fixed action)
    (later : ∀ a, Fixed (next a)) : Fixed (action >>= next) := by
  obtain ⟨result, finished, agrees⟩ := first
  cases result with
  | error cause =>
    refine ⟨.error cause, by simpa using finished, fun faces ones => ?_⟩
    have ran := agrees faces ones
    rw [run_bind]
    generalize action.run faces = run at ran
    cases ran with
    | whole continues => exact .whole continues
    | short ends => exact .short ends
  | ok a =>
    obtain ⟨last, done, follows⟩ := later a
    refine ⟨last, done, fun faces ones => ?_⟩
    have ran := agrees faces ones
    rw [run_bind]
    generalize action.run faces = run at ran
    cases ran with
    | short ends => exact .short ends
    | @whole rest continues =>
      have others := follows rest continues.ones
      show Agrees faces last ((next a).run rest)
      generalize (next a).run rest = run at others
      cases others with
      | whole continued => exact .whole (continues.trans continued)
      | short ends => exact .short (continues.endless ▸ ends)

end Rolling

theorem applyAll_shows {dice : Dice} (sided : dice.sides = 1) (modifiers : List Modifier)
    (rolls : List Die) :
    ∃ after refusal, refusal ≠ some .unfinished ∧ ∀ faces : Faces, faces.OnlyOnes →
      Table.Shows faces after refusal (applyAll dice modifiers rolls faces) := by
  induction modifiers generalizing rolls with
  | nil => exact ⟨rolls, none, by simp, fun faces ones => .whole ⟨ones, rfl⟩⟩
  | cons modifier others ih =>
    obtain ⟨mid, refusal, finished, first⟩ := modifier.exists_shows sided rolls
    have start (faces : Faces) (ones : faces.OnlyOnes) :=
      Modifier.applyTo_shows fun passes enough =>
      first passes faces enough ones
    cases refusal with
    | some cause =>
      refine ⟨mid, some cause, finished, fun faces ones => ?_⟩
      have table := start faces ones
      unfold applyAll
      generalize modifier.applyTo dice rolls faces = applied at table
      cases table with
      | whole continues => exact .whole continues
      | short ends error => exact .short ends (by simp only [error])
    | none =>
      obtain ⟨after, refusal, done, later⟩ := ih mid
      refine ⟨after, refusal, done, fun faces ones => ?_⟩
      have table := start faces ones
      unfold applyAll
      generalize modifier.applyTo dice rolls faces = applied at table
      cases table with
      | whole continues => exact (later _ continues.ones).trans continues
      | short ends error => exact .short ends (by simp only [error])

theorem Dice.roll_fixed {dice : Dice} (sided : dice.sides = 1) : Rolling.Fixed dice.roll := by
  obtain ⟨after, refusal, finished, shows_⟩ := applyAll_shows sided dice.modifiers
    (Rolled.ofFaces dice (List.replicate dice.count.toNat 1)).rolls
  refine ⟨match refusal with
    | some cause => .error cause
    | none => .ok ⟨dice, after⟩, ?_, fun faces ones => ?_⟩
  · cases refusal with
    | none => simp
    | some cause => simpa using finished
  · simp only [roll, rollWith, ExceptT.run, sided]
    rcases ones.draw dice.count.toNat with ⟨rest, drawn, continues⟩ | ⟨ends, short⟩
    · simp only [drawn, List.length_replicate, Nat.lt_irrefl, if_false]
      have table := (shows_ rest continues.ones).trans continues
      generalize applyAll dice dice.modifiers _ rest = applied at table
      cases table with
      | whole continued => cases refusal <;> exact .whole continued
      | short ends error =>
        simp only [error]
        exact .short ends
    · simp only [short, if_true]
      exact .short ends

theorem DiceExpr.roll_fixed {expr : DiceExpr} (fixed : expr.isFixed = true) :
    Rolling.Fixed expr.roll := by
  rw [isFixed, List.all_eq_true] at fixed
  unfold DiceExpr.roll
  induction expr with
  | number n => exact Rolling.fixed_pure _
  | leaf dice =>
    have sided : dice.sides = 1 := by simpa using fixed dice (List.mem_singleton_self dice)
    exact (Dice.roll_fixed sided).bind fun _ => Rolling.fixed_pure _
  | neg e ih => exact (ih fixed).bind fun _ => Rolling.fixed_pure _
  | binary op a b left right =>
    exact (left fun dice member => fixed dice (List.mem_append_left _ member)).bind fun _ =>
      (right fun dice member => fixed dice (List.mem_append_right _ member)).bind fun _ =>
        Rolling.fixed_pure _

def DiceExpr.valueFrom (faces : Faces) (expr : DiceExpr) : Except ArithmeticError Amount :=
  match expr.roll.run faces with
  | (.error cause, _) => .error (.roll cause)
  | (.ok rolled, _) => rolled.total.mapError .total

theorem arithmetic_of_parse {text : Text} {expr : DiceExpr}
    (parsed : DiceExpr.parse text = .ok expr)
    (fixed : expr.isFixed = true) : arithmetic text = expr.valueFrom .highest := by
  simp only [arithmetic, parsed, fixed, if_true, DiceExpr.valueFrom]
  rcases expr.roll.run .highest with ⟨_ | rolled, rest⟩
  · rfl
  · dsimp only
    cases rolled.total <;> rfl

theorem DiceExpr.valueFrom_eq {expr : DiceExpr} (fixed : expr.isFixed = true) {faces : Faces}
    (ones : faces.OnlyOnes) :
    expr.valueFrom .highest ≠ .error (.roll .unfinished) ∧
      (expr.valueFrom faces = expr.valueFrom .highest ∨
        faces.endless = false ∧ expr.valueFrom faces = .error (.roll .unfinished)) := by
  obtain ⟨result, finished, agrees⟩ := roll_fixed fixed
  have highest := agrees .highest (Faces.onlyOnes_highest 0)
  have ran := agrees faces ones
  unfold valueFrom
  generalize expr.roll.run .highest = run at highest
  generalize expr.roll.run faces = other at ran
  cases highest with
  | short ends => cases ends
  | whole _ =>
    refine ⟨?_, ?_⟩
    · cases result with
      | error cause => simpa using finished
      | ok rolled =>
        dsimp only
        cases rolled.total <;> simp [Except.mapError]
    · cases ran with
      | whole _ => exact .inl (by cases result <;> rfl)
      | short ends => exact .inr ⟨ends, rfl⟩

/-- Arithmetic is never given up, and there is no chance in it. Within two passes every modifier of
one-sided dice is done or refused, whatever it finds on the table, and each source that lands them
on 1 leads to the value of the text, or to its error, unless the source ends before. -/
theorem arithmetic_without_chance :
    (∀ text, arithmetic text ≠ .error (.roll .unfinished)) ∧
      ∀ expr : DiceExpr, expr.isFixed = true →
        (∀ dice ∈ expr.leaves, ∀ modifier ∈ dice.modifiers, ∀ rolls number passes, 2 ≤ passes →
          let highest := Faces.stream (fun _ sides => sides) number
          modifier.applyWithin passes dice rolls highest =
            modifier.applyWithin 2 dice rolls highest ∧
            (modifier.applyWithin 2 dice rolls highest).error ≠ some .unfinished) ∧
        (∀ text, DiceExpr.parse text = .ok expr → arithmetic text = expr.valueFrom .highest) ∧
        ∀ faces : Faces, faces.OnlyOnes →
          expr.valueFrom faces = expr.valueFrom .highest ∨
            faces.endless = false ∧ expr.valueFrom faces = .error (.roll .unfinished) := by
  refine ⟨fun text => ?_, fun expr fixed =>
    ⟨fun dice member modifier _ rolls number passes enough => ?_,
      fun text parsed => arithmetic_of_parse parsed fixed,
      fun faces ones => (DiceExpr.valueFrom_eq fixed ones).2⟩⟩
  · cases parsed : DiceExpr.parse text with
    | error cause => simp [arithmetic, parsed]
    | ok expr =>
      cases fixed : expr.isFixed with
      | false => simp [arithmetic, parsed, fixed]
      | true =>
        rw [arithmetic_of_parse parsed fixed]
        exact (DiceExpr.valueFrom_eq fixed (Faces.onlyOnes_highest 0)).1
  · have sided : dice.sides = 1 := by simpa using List.all_eq_true.mp fixed dice member
    have ended := modifier.ends_within_two sided rolls number
    exact ⟨Modifier.applyWithin_more ended enough, ended⟩

theorem arithmetic_exploding_ones :
    let expr : DiceExpr := .leaf ⟨2, 1, [.minimum 5, .explode (some (.atLeast 5)) true]⟩
    expr.isFixed = true ∧ (Faces.seeded 7).OnlyOnes ∧
      (expr.valueFrom (.seeded 7) = expr.valueFrom .highest ∨
        (Faces.seeded 7).endless = false ∧
          expr.valueFrom (.seeded 7) = .error (.roll .unfinished)) :=
  ⟨rfl, Faces.onlyOnes_seeded 7,
    (arithmetic_without_chance.2 _ rfl).2.2 _ (Faces.onlyOnes_seeded 7)⟩

example : (arithmetic "2d1min5x5".toList).toOption.map Amount.value = some 12 := by decide +kernel

end Tabletop
