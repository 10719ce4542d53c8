import Tabletop.Outcome.Roll
import Tabletop.Proofs.Brackets
import Tabletop.Proofs.Composing.Fragments
import Tabletop.Proofs.Rolling.Faces

/-! What the engine reads of a text: its fragments with their comments, without the comment of the
whole. A comment behind the text is no part of that, unless a semicolon of it has a roll behind it,
and neither are blanks; texts that are read alike are rolled alike. -/
namespace Tabletop

/-- No semicolon of the comment has a roll behind it. -/
def Inert (comment : Text) : Prop :=
  ∀ before after, comment = before ++ ';' :: after → opensRoll after = false

theorem inert_nil : Inert [] := by
  intro before after split
  simp at split

theorem Inert.trimEnd {comment : Text} (inert : Inert comment) : Inert comment.trimEnd := by
  intro before after split
  obtain ⟨blanks, blank, whole⟩ := comment.exists_append_blank
  rw [split, List.append_assoc, List.cons_append] at whole
  rw [← opensRoll_append_blank blank after]
  exact inert before (after ++ blanks) whole

theorem inert_cons_iff {c : Char} {comment : Text} :
    Inert (c :: comment) ↔ (c = ';' → opensRoll comment = false) ∧ Inert comment := by
  constructor
  · refine fun inert => ⟨?_, ?_⟩
    · rintro rfl
      exact inert [] comment rfl
    · rintro before after rfl
      exact inert (c :: before) after rfl
  · rintro ⟨first, others⟩ before after split
    cases before with
    | nil =>
      obtain ⟨rfl, rfl⟩ := List.cons.inj split
      exact first rfl
    | cons d before =>
      obtain ⟨rfl, rfl⟩ := List.cons.inj split
      exact others before after rfl

instance decidableInert : (comment : Text) → Decidable (Inert comment)
  | [] => .isTrue inert_nil
  | _ :: comment =>
    have := decidableInert comment
    decidable_of_iff' _ inert_cons_iff

theorem unbroken_comment {comment : Text} (inert : Inert comment) : Unbroken ('#' :: comment) := by
  intro before after split
  cases before with
  | nil => cases split
  | cons c before =>
    obtain ⟨rfl, rfl⟩ := List.cons.inj split
    exact ⟨List.mem_cons_self, inert before after rfl⟩

namespace Engine

theorem splitComment_append_blank {after : Text} (blank : after.allBlank = true) (fragment : Text) :
    splitComment (fragment ++ after) = splitComment fragment := by
  have unclosed := Text.not_mem_of_allBlank (c := ']') (by decide) blank
  have unopened := Text.not_mem_of_allBlank (c := '[') (by decide) blank
  have hashless := Text.not_mem_of_allBlank (c := '#') (by decide) blank
  simp only [splitComment, Reader.first?_append (bracket_spares unclosed),
    bracket_first?_eq_none unopened]
  cases bracket.first? fragment with
  | some found => simp only [← List.append_assoc, Text.trim_append blank]
  | none =>
    cases cut : Text.cutAt? '#' fragment with
    | some found => simp only [Option.map_none, Text.cutAt?_append cut, Text.trim_append blank]
    | none =>
      simp only [Option.map_none, Text.cutAt?_append_of_not_mem (Text.cutAt?_eq_none_iff.mp cut),
        Text.cutAt?_eq_none_iff.mpr hashless, Text.trim_append blank]

def written? (text : Text) : Option Text :=
  (Text.cutAt? '#' text).bind fun (_, comment) => Text.unlessEmpty comment.trim

theorem written?_of_not_mem {text : Text} (hashless : '#' ∉ text) : written? text = none := by
  rw [written?, Text.cutAt?_eq_none_iff.mpr hashless]
  rfl

theorem written?_append {front : Text} (hashless : '#' ∉ front) (comment : Text) :
    written? (front ++ '#' :: comment) = Text.unlessEmpty comment.trim := by
  rw [written?, Text.cutAt?_append_of_not_mem hashless]
  rfl

theorem splitGlobalComment_eq {text last : Text} {earlier : List Text}
    (parted : fragments text = earlier ++ [last]) :
    splitGlobalComment text = (earlier ++ [last.takeWhile (· ≠ '#')], written? last) := by
  simp only [splitGlobalComment, parted, List.getLastD_concat, List.dropLast_concat, written?]
  cases cut : Text.cutAt? '#' last with
  | some found =>
    rw [Text.takeWhile_of_cutAt? cut]
    rfl
  | none =>
    rw [Text.takeWhile_of_not_mem (Text.cutAt?_eq_none_iff.mp cut)]
    rfl

/-- What the engine reads of a text: each fragment that is not blank, with its comment, without the
comment of the whole. -/
def readings (text : Text) : List (Text × Option Text) :=
  ((splitGlobalComment text).1.filter fun part => !part.allBlank).map splitComment

theorem readings_append_comment {comment : Text} (inert : Inert comment) (text : Text) :
    readings (text ++ '#' :: comment) = readings text := by
  obtain ⟨parts, last, split⟩ := exists_concat_fragments text
  have longer : fragments (text ++ '#' :: comment) = parts ++ [last ++ '#' :: comment] :=
    ((fragments_eq_iff.mp split).append (fun text => opensRoll_append_hash text comment)
      (unbroken_comment inert)).fragments_eq
  rw [readings, readings, splitGlobalComment_eq longer, splitGlobalComment_eq split,
    Text.takeWhile_append_stop (by decide)]

theorem readings_append_blank {after : Text} (blank : after.allBlank = true) (text : Text) :
    readings (text ++ after) = readings text := by
  obtain ⟨parts, last, split⟩ := exists_concat_fragments text
  have longer : fragments (text ++ after) = parts ++ [last ++ after] :=
    ((fragments_eq_iff.mp split).append (opensRoll_append_blank blank)
      (unbroken_blank blank)).fragments_eq
  rw [readings, readings, splitGlobalComment_eq longer, splitGlobalComment_eq split]
  by_cases commented : '#' ∈ last
  · rw [(Text.takeWhile_append_of_mem (by decide) commented after).1]
  · have hashless : '#' ∉ last ++ after := fun member =>
      (List.mem_append.mp member).elim commented (Text.not_mem_of_allBlank (by decide) blank)
    have same : (last ++ after).allBlank = last.allBlank := by
      rw [Text.allBlank, List.all_append, ← Text.allBlank, ← Text.allBlank, blank, Bool.and_true]
    rw [Text.takeWhile_of_not_mem hashless, Text.takeWhile_of_not_mem commented, List.filter_append,
      List.filter_append, List.map_append, List.map_append]
    congr 1
    cases visible : last.allBlank with
    | true => simp [same, visible]
    | false => simp [same, visible, splitComment_append_blank blank]

theorem readings_composed (stem : Text) {comment : Text}
    (shape : comment = [] ∨ ∃ text, comment = '#' :: text) (inert : Inert comment) :
    readings (Text.trim (Text.trimEnd (stem ++ ' ' :: comment))) = readings stem.trim := by
  have spaced : (stem ++ [' ']).trim = stem.trim := Text.trim_append (by decide)
  rw [Text.trim_trimEnd, List.append_cons]
  rcases shape with rfl | ⟨text, rfl⟩
  · rw [List.append_nil, spaced]
  · obtain ⟨after, blank, whole⟩ := (stem ++ [' ']).trimStart.exists_append_blank
    have ends : (stem ++ [' ']).trimStart.trimEnd = stem.trim := spaced
    rw [Text.trim, Text.trimStart_append_visible (by decide),
      Text.trimEnd_append_visible (by decide),
      readings_append_comment (inert_cons_iff.mp inert).2.trimEnd, whole,
      readings_append_blank blank, ends]

theorem fragment_congr {text other : Text} (same : splitComment text = splitComment other)
    (limit : Option Nat) (firstTotal : Option Amount) :
    fragment limit firstTotal text = fragment limit firstTotal other := by
  simp only [fragment, same]

theorem segments_congr {texts others : List Text}
    (same : texts.map splitComment = others.map splitComment)
    (limit : Option Nat) (firstTotal : Option Amount) :
    segments limit firstTotal texts = segments limit firstTotal others := by
  induction texts generalizing others firstTotal with
  | nil =>
    obtain rfl : others = [] := by simpa using same
    rfl
  | cons text texts ih =>
    cases others with
    | nil => cases same
    | cons other others =>
      obtain ⟨first, later⟩ := List.cons.inj same
      simp only [segments, fragment_congr first, ih later]

theorem roll_run (limit : Option Nat) (text : Text) (faces : Faces) :
    (roll limit text).run faces =
      match (segments limit none ((splitGlobalComment text.trim).1.filter fun part =>
        !part.allBlank)).run faces with
      | (.ok segments, rest) =>
        (if segments.isEmpty then .error (.malformed text.trim .nothingToRoll)
          else .ok ⟨text.trim, segments, (splitGlobalComment text.trim).2⟩, rest)
      | (.error cause, rest) => (.error cause, rest) := by
  unfold roll
  simp only [run_bind]
  split
  · next segments rest ran =>
    simp only [ran]
    split <;> rfl
  · next ran => simp only [ran]

def heard (run : Except OutcomeError Outcome × Faces) : Option (List Segment) × Faces :=
  (run.1.toOption.map Outcome.segments, run.2)

theorem heard_congr {text other : Text} (same : readings text.trim = readings other.trim)
    (limit : Option Nat) (faces : Faces) :
    heard ((roll limit text).run faces) = heard ((roll limit other).run faces) := by
  rw [roll_run, roll_run, segments_congr same]
  split
  · next segments rest _ => cases segments <;> rfl
  · rfl

end Engine
end Tabletop
