import Tabletop.Dice.Rolling

/-! Patience with a queue. Every pass but the last takes a face, so the bound on the passes of a
modifier never breaks off a roll whose faces come from a queue. -/
namespace Tabletop

theorem Faces.draw_queue (sides : UInt8) (count : Nat) (faces : List UInt8) :
    (Faces.queue faces).draw sides count = (faces.take count, .queue (faces.drop count)) := by
  induction count generalizing faces with
  | zero => rfl
  | succ count ih =>
    cases faces with
    | nil => rfl
    | cons face rest => simp only [draw, next?, ih, List.take_succ_cons, List.drop_succ_cons]

theorem length_drop_lt {faces : List UInt8} {count passes : Nat} (positive : 0 < count)
    (given : ¬ (faces.take count).length < count) (enough : faces.length < passes + 1) :
    (faces.drop count).length < passes := by
  rw [List.length_take] at given
  rw [List.length_drop]
  omega

theorem rerollPasses_queue (cause : Modifier) (condition : Condition) (sides : UInt8)
    (recurse : Bool)
    {passes more : Nat} {rolls : List Die} {faces : List UInt8} (enough : faces.length < passes)
    (also : faces.length < more) :
    rerollPasses cause condition sides recurse passes rolls (.queue faces) =
      rerollPasses cause condition sides recurse more rolls (.queue faces) := by
  induction passes generalizing more rolls faces with
  | zero => contradiction
  | succ passes ih =>
    cases more with
    | zero => contradiction
    | succ more =>
      simp only [rerollPasses, Faces.draw_queue]
      split
      · rfl
      · next given =>
        split
        · next again =>
          have positive : 0 < rolls.countP condition.concerns := by
            simpa using (Bool.and_eq_true_iff.mp again).2
          exact ih (length_drop_lt positive given enough) (length_drop_lt positive given also)
        · rfl

theorem explosionWaves_queue (cause : Modifier) (condition : Condition) (sides : UInt8)
    (recurse : Bool)
    {passes more count : Nat} {rolls : List Die} {faces : List UInt8}
    (enough : faces.length < passes) (also : faces.length < more) :
    explosionWaves cause condition sides recurse passes count rolls (.queue faces) =
      explosionWaves cause condition sides recurse more count rolls (.queue faces) := by
  induction passes generalizing more count rolls faces with
  | zero => contradiction
  | succ passes ih =>
    cases more with
    | zero => contradiction
    | succ more =>
      simp only [explosionWaves, Faces.draw_queue]
      split
      · rfl
      · next given =>
        split
        · next again =>
          have positive : 0 < count := by simpa using (Bool.and_eq_true_iff.mp again).2
          exact ih (length_drop_lt positive given enough) (length_drop_lt positive given also)
        · rfl

theorem Modifier.applyWithin_queue (modifier : Modifier) (dice : Dice) (rolls : List Die)
    {faces : List UInt8} {passes : Nat} (enough : faces.length < passes) :
    modifier.applyWithin passes dice rolls (.queue faces) =
      modifier.applyTo dice rolls (.queue faces) := by
  have patient : faces.length < (Faces.queue faces).patience := Nat.lt_succ_self _
  cases modifier with
  | reroll condition recurse =>
    simp only [applyTo, applyWithin,
      rerollPasses_queue _ condition dice.sides recurse enough patient]
  | explode condition recurse =>
    simp only [applyTo, applyWithin, explosionWaves_queue _ _ dice.sides recurse enough patient]
  | keepHigh | keepLow | minimum | maximum => rfl

end Tabletop
