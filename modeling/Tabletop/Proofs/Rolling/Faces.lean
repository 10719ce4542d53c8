import Tabletop.Dice.Faces

/-! What a source gives, and runs of work that takes faces and may fail. Drawing takes faces one
after the other and loses none; the faces that one part of a run leaves are those of the next, and a
part that fails is the last one. -/
namespace Tabletop

namespace Faces

variable {sides : UInt8}

inductive Gives (sides : UInt8) : Faces → List UInt8 → Faces → Prop where
  | nil {faces : Faces} : Gives sides faces [] faces
  | cons {faces rest last : Faces} {face : UInt8} {others : List UInt8} :
      faces.next? sides = some (face, rest) → Gives sides rest others last →
        Gives sides faces (face :: others) last

theorem Gives.append {first mid last : Faces} {xs ys : List UInt8}
    (start : Gives sides first xs mid) (later : Gives sides mid ys last) :
    Gives sides first (xs ++ ys) last := by
  induction start with
  | nil => exact later
  | cons next _ ih => exact .cons next (ih later)

theorem gives_draw (sides : UInt8) (count : Nat) (faces : Faces) :
    Gives sides faces (faces.draw sides count).1 (faces.draw sides count).2 := by
  induction count generalizing faces with
  | zero => exact .nil
  | succ count ih =>
    unfold draw
    cases next : faces.next? sides with
    | none => exact .nil
    | some drawn => exact .cons next (ih drawn.2)

theorem length_draw_le (count : Nat) (faces : Faces) :
    (faces.draw sides count).1.length ≤ count := by
  induction count generalizing faces with
  | zero => exact Nat.le_refl 0
  | succ count ih =>
    unfold draw
    cases faces.next? sides with
    | none => exact Nat.zero_le _
    | some drawn => exact Nat.succ_le_succ (ih drawn.2)

theorem Gives.queue {faces given : List UInt8} {last : Faces}
    (gives : Gives sides (.queue faces) given last) :
    ∃ left, last = .queue left ∧ faces = given ++ left := by
  generalize start : Faces.queue faces = first at gives
  induction gives generalizing faces with
  | nil => exact ⟨faces, start.symm, rfl⟩
  | cons next _ ih =>
    subst start
    cases faces with
    | nil => contradiction
    | cons face others =>
      cases next
      obtain ⟨left, same, split⟩ := ih rfl
      exact ⟨left, same, by rw [split]; rfl⟩

end Faces

section Runs

variable {ε ε' α β : Type}

theorem run_bind (action : ExceptT ε (StateM Faces) α) (next : α → ExceptT ε (StateM Faces) β)
    (faces : Faces) :
    (action >>= next).run faces =
      match action.run faces with
      | (.ok a, rest) => (next a).run rest
      | (.error cause, rest) => (.error cause, rest) := by
  change (match action.run faces with
    | (result, rest) => (ExceptT.bindCont next result).run rest) = _
  rcases action.run faces with ⟨_ | a, rest⟩ <;> rfl

theorem run_adapt (change : ε → ε') (action : ExceptT ε (StateM Faces) α) (faces : Faces) :
    (action.adapt change).run faces =
      ((action.run faces).1.mapError change, (action.run faces).2) := rfl

theorem bind_run_eq_ok {action : ExceptT ε (StateM Faces) α} {next : α → ExceptT ε (StateM Faces) β}
    {faces last : Faces} {b : β} (done : (action >>= next).run faces = (.ok b, last)) :
    ∃ a rest, action.run faces = (.ok a, rest) ∧ (next a).run rest = (.ok b, last) := by
  rw [run_bind] at done
  rcases ran : action.run faces with ⟨_ | a, rest⟩
  · simp only [ran] at done
    cases done
  · simp only [ran] at done
    exact ⟨a, rest, rfl, done⟩

end Runs
end Tabletop
