import Mathlib.Data.List.TakeWhile
import Tabletop.Formula.Fragments
import Tabletop.Proofs.Reading.Combinators
import Tabletop.Proofs.Scanning

/-! Spans in brackets. What a span is, and that it never reaches into a text that closes none. -/
namespace Tabletop

theorem bracket_eq_some_iff {text inner rest : Text} :
    bracket text = some (inner, rest) ↔ text = '[' :: (inner ++ ']' :: rest) ∧ '[' ∉ inner ∧
      ']' ∉ inner := by
  constructor
  · intro read
    simp only [bracket, Option.bind_eq_bind, Option.bind_eq_some_iff, Prod.exists,
      Option.some.injEq, Prod.mk.injEq] at read
    obtain ⟨_, behind, opens, _, after, closes, rfl, rfl⟩ := read
    have whole :=
      (List.takeWhile_append_dropWhile (p := fun c => c ≠ '[' && c ≠ ']') (l := behind)).symm
    rw [Reader.char_eq_some_iff.mp closes] at whole
    refine ⟨(Reader.char_eq_some_iff.mp opens).trans (congrArg _ whole),
      fun member => ?_, fun member => ?_⟩
    · simpa using List.mem_takeWhile_imp member
    · simpa using List.mem_takeWhile_imp member
  · rintro ⟨rfl, unopened, unclosed⟩
    have inside : ∀ c ∈ inner, (!decide (c = '[') && !decide (c = ']')) = true := by
      intro c member
      have first : c ≠ '[' := fun same => unopened (same ▸ member)
      have second : c ≠ ']' := fun same => unclosed (same ▸ member)
      simp [first, second]
    simp [bracket, Reader.char, List.takeWhile_append_of_pos inside,
      List.dropWhile_append_of_pos inside]

theorem bracket_spares {more : Text} (unclosed : ']' ∉ more) : bracket.Spares more := by
  intro text
  cases found : bracket text with
  | some reading =>
    obtain ⟨rfl, _, fresh⟩ := bracket_eq_some_iff.mp found
    exact bracket_eq_some_iff.mpr ⟨by simp, by assumption, fresh⟩
  | none =>
    refine Option.eq_none_iff_forall_ne_some.mpr fun ⟨inner, rest⟩ read => ?_
    obtain ⟨split, opens, fresh⟩ := bracket_eq_some_iff.mp read
    have split : text ++ more = ('[' :: inner) ++ ']' :: rest := split
    rcases List.append_eq_append_iff.mp split with ⟨mid, _, behind⟩ | ⟨mid, rfl, behind⟩
    · exact unclosed (behind ▸ List.mem_append_right _ List.mem_cons_self)
    · cases mid with
      | nil => exact unclosed (by rw [← List.nil_append more, ← behind]; exact List.mem_cons_self)
      | cons c mid =>
        obtain ⟨rfl, _⟩ := List.cons.inj behind
        have read : bracket ('[' :: inner ++ ']' :: mid) = some (inner, mid) :=
          bracket_eq_some_iff.mpr ⟨rfl, opens, fresh⟩
        rw [read] at found
        contradiction

theorem bracket_first?_eq_none {text : Text} (unopened : '[' ∉ text) :
    bracket.first? text = none := by
  refine Reader.first?_eq_none fun before c after split => ?_
  refine Option.eq_none_iff_forall_ne_some.mpr fun ⟨inner, rest⟩ read => ?_
  obtain ⟨opens, _⟩ := bracket_eq_some_iff.mp read
  rw [split, opens] at unopened
  exact unopened (List.mem_append_right _ List.mem_cons_self)

end Tabletop
