import Mathlib.Data.List.Infix
import Tabletop.Comment.Merge
import Tabletop.Proofs.Scanning

/-! Stat markers and the names that can be read from them. A marker is read back as long as its name
is on one line and does not close it early. -/
namespace Tabletop.StatMarker

variable {text name rest : Text}

theorem after?_closing {c : Char} (unclosed : ¬ closing <:+: c :: name) (rest : Text) :
    Text.after? closing (c :: (name ++ (closing ++ rest))) = none := by
  rcases name with _ | ⟨d, _ | ⟨e, _ | ⟨f, _ | ⟨g, others⟩⟩⟩⟩
  case cons.cons.cons.cons =>
    refine Option.eq_none_iff_forall_ne_some.mpr fun behind closes => unclosed ?_
    have split := Text.after?_eq_some_iff.mp closes
    simp only [closing, List.cons_append, List.nil_append, List.cons.injEq] at split
    obtain ⟨rfl, rfl, rfl, rfl, rfl, _⟩ := split
    exact (List.prefix_append closing others).isInfix
  all_goals simp [closing, Text.after?]

theorem nameRest_eq_some_iff : nameRest text = some (name, rest) ↔
    text = name ++ (closing ++ rest) ∧ '\n' ∉ name ∧ ¬ closing <:+: name := by
  constructor
  · intro reads
    induction text generalizing name with
    | nil => cases reads
    | cons c cs ih =>
      unfold nameRest at reads
      split at reads
      · next closes =>
        cases reads
        have split := Text.after?_eq_some_iff.mp closes
        exact ⟨split, List.not_mem_nil, by decide⟩
      · next unclosed =>
        split at reads
        · cases reads
        · next other =>
          simp only [Option.map_eq_some_iff, Prod.mk.injEq] at reads
          obtain ⟨⟨inner, _⟩, reads, rfl, rfl⟩ := reads
          obtain ⟨rfl, clean, inside⟩ := ih reads
          refine ⟨rfl, by simp [clean, Ne.symm other], fun closed => ?_⟩
          rcases List.infix_cons_iff.mp closed with first | later
          · obtain ⟨behind, split⟩ := first.trans (List.prefix_append (c :: inner) _)
            rw [← List.cons_append, ← split, Text.after?_eq_some_iff.mpr rfl] at unclosed
            cases unclosed
          · exact inside later
  · rintro ⟨rfl, clean, unclosed⟩
    induction name with
    | nil => simp [closing, nameRest, Text.after?]
    | cons c cs ih =>
      have other : c ≠ '\n' := fun same => clean (same ▸ List.mem_cons_self)
      have others := ih (fun member => clean (List.mem_cons_of_mem c member)) fun inside =>
        unclosed (inside.trans (List.suffix_cons c cs).isInfix)
      rw [List.cons_append, nameRest, after?_closing unclosed]
      simp only [other, if_false, others, Option.map_some]

/-- The name is what a marker is read with. A closing counts only behind its first character. -/
structure Readable (name : Text) : Prop where
  ne_nil : name ≠ []
  clean : '\n' ∉ name
  unclosed : ¬ closing <:+: name.tail

theorem reader_eq_some_iff :
    reader text = some (name, rest) ↔ text = mark name ++ rest ∧ Readable name := by
  simp only [reader, Option.bind_eq_bind, Option.bind_eq_some_iff, Text.after?_eq_some_iff]
  constructor
  · rintro ⟨behind, rfl, reads⟩
    split at reads
    · cases reads
    · split at reads
      · cases reads
      · next other =>
        simp only [Option.map_eq_some_iff, Prod.mk.injEq] at reads
        obtain ⟨⟨inner, _⟩, reads, rfl, rfl⟩ := reads
        obtain ⟨rfl, clean, unclosed⟩ := nameRest_eq_some_iff.mp reads
        exact ⟨by simp [mark], List.cons_ne_nil _ _, by simp [clean, Ne.symm other], unclosed⟩
  · rintro ⟨rfl, ne_nil, clean, unclosed⟩
    refine ⟨name ++ (closing ++ rest), by simp [mark], ?_⟩
    cases name with
    | nil => contradiction
    | cons c cs =>
      have other : c ≠ '\n' := fun same => clean (same ▸ List.mem_cons_self)
      have others : nameRest (cs ++ (closing ++ rest)) = some (cs, rest) :=
        nameRest_eq_some_iff.mpr ⟨rfl,
          fun member => clean (List.mem_cons_of_mem c member), unclosed⟩
      simp only [List.cons_append, other, if_false, others, Option.map_some]

structure Legible (name : Text) : Prop where
  ne_nil : name ≠ []
  clean : '\n' ∉ name
  unclosed : ¬ closing <:+: name

instance (name : Text) : Decidable (Legible name) :=
  decidable_of_iff (name ≠ [] ∧ '\n' ∉ name ∧ ¬ closing <:+: name)
    ⟨fun ⟨ne_nil, clean, unclosed⟩ => ⟨ne_nil, clean, unclosed⟩,
      fun ⟨ne_nil, clean, unclosed⟩ => ⟨ne_nil, clean, unclosed⟩⟩

theorem Legible.readable (legible : Legible name) : Readable name :=
  ⟨legible.ne_nil, legible.clean,
    fun inside => legible.unclosed (inside.trans (List.tail_suffix name).isInfix)⟩

theorem reader_mark (readable : Readable name) (rest : Text) :
    reader (mark name ++ rest) = some (name, rest) :=
  reader_eq_some_iff.mpr ⟨rfl, readable⟩

theorem mark_ne_nil (name : Text) : mark name ≠ [] := List.cons_ne_nil _ _

theorem mark_injective : Function.Injective mark := by
  intro name other same
  exact List.append_cancel_left (List.append_cancel_right same)

theorem reader_takesPart : reader.TakesPart := by
  intro text name rest reads
  exact ⟨mark name, mark_ne_nil name, (reader_eq_some_iff.mp reads).1⟩

theorem of_mem_findings {part : Text} (found : (name, part) ∈ reader.findings text) :
    part = mark name ∧ Readable name := by
  obtain ⟨start, rest, _, reads, rfl⟩ := Reader.exists_reads_of_mem_findings found
  obtain ⟨split, readable⟩ := reader_eq_some_iff.mp reads
  exact ⟨Reader.taken_append split, readable⟩

theorem reader_starts : reader.StartsWith '%' := by
  rintro text ⟨name, rest⟩ reads
  obtain ⟨rfl, _⟩ := reader_eq_some_iff.mp reads
  rfl

end Tabletop.StatMarker
