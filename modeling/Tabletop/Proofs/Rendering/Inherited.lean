import Tabletop.Proofs.Composing.Comments
import Tabletop.Proofs.Extracting.Line
import Tabletop.Proofs.Rendering.OneLine

/-! What a formula has from its line. A property that passes to the parts of a text, and to texts
with the separators between them that extracting and merging write, passes from a line to its
formula and its comment. -/
namespace Tabletop

/-- The property passes to the parts of a text, to texts with a separator between them, and to what
is left of a text once it is collapsed or its markers are erased. -/
structure Inherited (P : Text → Prop) : Prop where
  of_part {part text : Text} : part <:+: text → P text → P part
  between {c : Char} {before after : Text} : c ∈ [' ', '#', ';'] → P before → P after →
    P (before ++ c :: after)
  collapsed {text : Text} : P text → P text.collapsed
  erased {text : Text} : P text → P (StatMarker.reader.erased text : Text)

namespace Inherited

variable {P : Text → Prop} {line formula text : Text}

section
variable (inherited : Inherited P)
include inherited

theorem trim (holds : P text) : P text.trim := inherited.of_part text.trim_part holds

theorem nil (holds : P text) : P [] := inherited.of_part List.nil_infix holds

theorem joined {separator : Char} (known : separator ∈ [' ', '#', ';']) (empty : P [])
    {parts : List Text} (each : ∀ part ∈ parts, P part) : P (Text.joined [separator] parts) := by
  induction parts with
  | nil => exact empty
  | cons part parts ih =>
    have later := ih fun other member => each other (List.mem_cons_of_mem part member)
    cases parts with
    | nil =>
      rw [Text.joined_singleton]
      exact each part List.mem_cons_self
    | cons next others =>
      rw [Text.joined_cons_cons]
      exact inherited.between known (each part List.mem_cons_self) later

theorem of_mem_fragments {part : Text} (holds : P text) (member : part ∈ fragments text) : P part :=
  inherited.of_part ((fragments_eq_iff.mp rfl).part_of_mem member) holds

theorem extract (holds : P line) :
    P (extract line).formula ∧ ∀ comment, (Tabletop.extract line).comment = some comment →
      P comment := by
  have whole := inherited.trim holds
  by_cases chain : '&' ∈ line.trim ∧ ';' ∈ line.trim
  · rw [extract_chained chain]
    exact ⟨whole, by simp⟩
  · rcases bracketRoll?_spec line.trim with ⟨before, inner, after, found, first⟩ | ⟨none, _⟩
    · rw [extract_bracketed chain found]
      rw [first.span.split] at whole
      have opening : before <:+: before ++ '[' :: (inner ++ ']' :: after) :=
        (List.prefix_append _ _).isInfix
      have within : inner <:+: before ++ '[' :: (inner ++ ']' :: after) :=
        ⟨before ++ ['['], ']' :: after, by simp⟩
      have closing : after <:+: before ++ '[' :: (inner ++ ']' :: after) :=
        ⟨before ++ '[' :: (inner ++ [']']), [], by simp⟩
      refine ⟨inherited.trim (inherited.of_part within whole), fun comment same => ?_⟩
      unfold Text.unlessEmpty at same
      split at same
      · cases same
      · cases same
        exact inherited.collapsed (inherited.trim (inherited.between (by decide)
          (inherited.of_part opening whole) (inherited.of_part closing whole)))
    · obtain ⟨formula, comment, token, kept⟩ := leadingToken?_getD_trim line
      rw [extract_token chain none token]
      rcases kept with ⟨rfl, rfl⟩ | ⟨between, text, split, rfl, _⟩
      · exact ⟨whole, by simp⟩
      · rw [split] at whole
        have later : text <:+: formula ++ (between ++ text) := ⟨formula ++ between, [], by simp⟩
        exact ⟨inherited.of_part (List.prefix_append _ _).isInfix whole,
          by simpa using inherited.of_part later whole⟩

theorem formula? (found : Request.formula? (Tabletop.extract line) = some formula)
    (holds : P line) : P formula := by
  obtain ⟨body, comment⟩ := inherited.extract holds
  have commented {text : Text} (given : (Tabletop.extract line).comment = some text) :
      P ((Tabletop.extract line).formula ++ " # " ++ (text.withoutLeading '#').trimStart) := by
    have kept : P (text.withoutLeading '#').trimStart := inherited.of_part
      ((List.dropWhile_suffix _).trans (List.dropWhile_suffix _)).isInfix (comment text given)
    have marked := inherited.between (c := '#') (by decide) (inherited.nil body)
      (inherited.between (c := ' ') (by decide) (inherited.nil body) kept)
    simpa using inherited.between (c := ' ') (by decide) body marked
  unfold Request.formula? at found
  cases shape : (Tabletop.extract line).shape with
  | prose => simp only [shape, reduceCtorEq] at found
  | chained =>
    simp only [shape, Option.some.injEq] at found
    exact found ▸ body
  | bracketed | plain =>
    cases given : (Tabletop.extract line).comment with
    | none =>
      simp only [shape, given, Option.some.injEq] at found
      exact found ▸ body
    | some text =>
      simp only [shape, given, Option.some.injEq] at found
      exact found ▸ commented given

theorem splitComment {parts : List Text} (empty : P []) (each : ∀ part ∈ parts, P part) :
    P (Merged.splitComment parts).1 ∧ ∀ comment, (Merged.splitComment parts).2 = some comment →
      P comment := by
  unfold Merged.splitComment
  dsimp only
  cases cut : Text.cutAt? '#' (parts.getLastD []) with
  | none => exact ⟨inherited.joined (by decide) empty each, by simp⟩
  | some found =>
    obtain ⟨split, _⟩ := Text.eq_of_cutAt? cut
    have last : P (parts.getLastD []) := by
      rcases List.eq_nil_or_concat parts with rfl | ⟨earlier, last, rfl⟩
      · exact empty
      · simpa using each last (by simp)
    rw [split] at last
    refine ⟨inherited.joined (by decide) empty fun part member => ?_, ?_⟩
    · rcases List.mem_append.mp member with earlier | body
      · exact each part (List.dropLast_subset parts earlier)
      · exact List.mem_singleton.mp body ▸ inherited.of_part (List.prefix_append _ _).isInfix last
    · intro comment same
      obtain rfl := Option.some.inj same
      exact inherited.of_part ⟨found.1 ++ ['#'], [], by simp⟩ last

theorem ofFormula (holds : P formula) (comment : Option Text) :
    P (Merged.ofFormula formula comment).formula :=
  inherited.trim (inherited.erased
    (inherited.splitComment (inherited.nil holds) fun _ member =>
      inherited.of_mem_fragments holds member).1)

end
end Inherited

theorem Text.inherited_oneLine : Inherited OneLine where
  of_part part clean := clean.of_subset part.subset
  between {c _ _} known before after := by
    have other : c ≠ '\n' := by
      rintro rfl
      revert known
      decide
    simp [before, other, after]
  collapsed _ := oneLine_collapsed _
  erased clean := Reader.not_mem_substituted clean fun _ _ _ _ _ => List.not_mem_nil

end Tabletop
