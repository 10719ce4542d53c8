import Tabletop.Proofs.Reading.Summands

/-! Texts in pieces, some of them zeros in parentheses. Where every zero is a summand of its own,
the text without the zeros comes to what the text with them comes to. -/
namespace Tabletop

open Text (room)

/-- A part of a text in which zeros can be taken out: characters that stay, or a zero in parentheses
with the gap before it. -/
inductive Piece where
  | stays (text : Text)
  | zero (gap : Text)
  deriving DecidableEq

namespace Piece

def withZeros (pieces : List Piece) : Text := pieces.flatMap fun
  | stays text => text
  | zero gap => gap ++ room

def withoutZeros (pieces : List Piece) : Text := pieces.flatMap fun
  | stays text => text
  | zero _ => []

variable (text gap : Text) (pieces : List Piece)

theorem withZeros_stays : withZeros (.stays text :: pieces) = text ++ withZeros pieces := rfl

theorem withZeros_zero : withZeros (.zero gap :: pieces) = gap ++ (room ++ withZeros pieces) :=
  List.append_assoc gap room _

theorem withoutZeros_stays : withoutZeros (.stays text :: pieces) = text ++ withoutZeros pieces :=
  rfl

theorem withoutZeros_zero : withoutZeros (.zero gap :: pieces) = withoutZeros pieces := rfl

end Piece

/-- What stands before and behind a reference leaves it a summand of its own. It is not multiplied
or divided, its sign is the one that goes with it, and a minus that comes to stand in front takes
nothing but the factor behind it. -/
structure IsSummand (before after : Text) : Prop where
  unfactored : ¬ OpensFactor after
  unsigned : ∀ op : Op, before.trimEnd.getLast? ≠ some op.symbol
  undivided : before.trimEnd = [] ∨ before.trimEnd.getLast? = some '(' → Undivided after

def OnlySummands (before : Text) : List Piece → Prop
  | [] => True
  | .stays text :: pieces => OnlySummands (before ++ text) pieces
  | .zero _ :: pieces => IsSummand before (Piece.withZeros pieces) ∧ OnlySummands before pieces

theorem Gap.widen {blank gap : Text} (gaps : Gap gap) (blanks : blank.allBlank = true) :
    Gap (blank ++ gap) := by
  rcases gaps with none | ⟨op, additive, spaced⟩
  · exact .inl (Text.allBlank_append_iff.mpr ⟨blanks, none⟩)
  · exact .inr ⟨op, additive, spaced.blank_append blanks⟩

theorem Gap.head_append {gap : Text} (gaps : Gap gap) (after : Text) :
    ∃ c, c ≠ ')' ∧ (Text.trimStart (gap ++ (room ++ after))).head? = some c := by
  rcases gaps with blank | ⟨op, _, spaced⟩
  · refine ⟨'(', by decide, ?_⟩
    rw [Text.trimStart_append blank]
    rfl
  · exact ⟨op.symbol, op.symbol_facts.2.2, spaced.head_trimStart rfl op.symbol_facts.2.1 _⟩

theorem Text.head?_trimStart_eq_none_iff {text : Text} :
    text.trimStart.head? = none ↔ text.allBlank = true := by
  rw [List.head?_eq_none_iff, trimStart, List.dropWhile_eq_nil_iff, allBlank, List.all_eq_true]

theorem Sentence.not_hollow {before after : Text} {e : DiceExpr}
    (sentence : Sentence .sum (before ++ after) e)
    (opens : before.trimEnd.getLast? = some '(') : after.trimStart.head? ≠ some ')' := by
  intro closes
  obtain ⟨first, starts, whole⟩ := before.exists_append_blank
  obtain ⟨last, ends, behind⟩ := after.exists_blank_append
  obtain ⟨start, front⟩ := List.getLast?_eq_some_iff.mp opens
  obtain ⟨rest, back⟩ := List.head?_eq_some_iff.mp closes
  have hollow : Text.allBlank (first ++ last) = true := Text.allBlank_append_iff.mpr ⟨starts, ends⟩
  have split : before ++ after = start ++ '(' :: ((first ++ last) ++ ')' :: rest) := by
    rw [whole, behind, front, back]
    simp
  obtain ⟨a, inner⟩ := sentence.nested.inner start (first ++ last) rest split
    (Text.not_mem_of_allBlank (by decide) hollow) (Text.not_mem_of_allBlank (by decide) hollow)
  rw [inner.allBlank_eq_false] at hollow
  cases hollow

namespace Piece

theorem head?_withoutZeros {pieces : List Piece} (gaps : ∀ gap, .zero gap ∈ pieces → Gap gap)
    (closes : ∀ c ∈ (withZeros pieces).trimStart.head?, c = ')') :
    (withoutZeros pieces).trimStart.head? = (withZeros pieces).trimStart.head? := by
  induction pieces with
  | nil => rfl
  | cons piece pieces ih =>
    have others := ih fun gap member => gaps gap (List.mem_cons_of_mem piece member)
    cases piece with
    | stays text =>
      rw [withZeros_stays] at closes ⊢
      rw [withoutZeros_stays]
      cases front : text.trimStart.head? with
      | none =>
        have blank := Text.head?_trimStart_eq_none_iff.mp front
        rw [Text.trimStart_append blank] at closes ⊢
        rw [Text.trimStart_append blank]
        exact others closes
      | some c => rw [Text.head?_trimStart_append front, Text.head?_trimStart_append front]
    | zero gap =>
      obtain ⟨c, other, first⟩ := (gaps gap List.mem_cons_self).head_append (withZeros pieces)
      rw [withZeros_zero] at closes
      exact absurd (closes c first) other

end Piece

theorem concluded_trimEnd {text : Text}
    (unsigned : ∀ op : Op, text.trimEnd.getLast? ≠ some op.symbol) : Concluded text.trimEnd := by
  intro c last
  obtain ⟨nonempty, rfl⟩ := List.mem_getLast?_eq_getLast last
  have visible := Text.trimEnd_eq_self_iff.mp text.trimEnd_trimEnd nonempty
  exact ⟨Bool.eq_false_iff.mpr visible, fun op same => unsigned op (same ▸ last)⟩

theorem IsSummand.vacate {before gap after : Text} {e : DiceExpr} (summand : IsSummand before after)
    (gaps : Gap gap) (sentence : Sentence .sum (before ++ (gap ++ (room ++ after))) e)
    (filled : before.trimEnd.getLast? = some '(' → after.trimStart.head? ≠ some ')') :
    Text.allBlank (before ++ after) = true ∨
      ∃ left : DiceExpr, Sentence .sum (before ++ after) left ∧ left.outcome = e.outcome := by
  obtain ⟨blank, blanks, whole⟩ := before.exists_append_blank
  have vacant : Vacant .sum before.trimEnd after :=
    { concluded := concluded_trimEnd summand.unsigned
      unfactored := summand.unfactored
      leading := fun empty _ => summand.undivided (.inl empty)
      opening := fun opens => ⟨summand.undivided (.inr opens), filled opens⟩ }
  have split : before ++ (gap ++ (room ++ after)) =
      before.trimEnd ++ ((blank ++ gap) ++ (room ++ after)) := by
    conv_lhs => rw [whole]
    simp
  cases sentence.vacates split (gaps.widen blanks) vacant with
  | empty alone blank' _ =>
    rw [alone, List.nil_append] at whole
    exact .inl (Text.allBlank_append_iff.mpr ⟨whole ▸ blanks, blank'⟩)
  | rest _ sentence same =>
    refine .inr ⟨_, ?_, same⟩
    rw [whole, List.append_assoc]
    exact sentence blank blanks

theorem Sentence.withoutZeros {before : Text} {pieces : List Piece} {e last : DiceExpr}
    (gaps : ∀ gap, .zero gap ∈ pieces → Gap gap)
    (sentence : Sentence .sum (before ++ Piece.withZeros pieces) e)
    (summands : OnlySummands before pieces)
    (reads : Sentence .sum (before ++ Piece.withoutZeros pieces) last) :
    ∃ left : DiceExpr, Sentence .sum (before ++ Piece.withoutZeros pieces) left ∧
      left.outcome = e.outcome := by
  -- Each zero leaves a sentence behind that is the one the next zero is taken out of.
  induction pieces generalizing before e with
  | nil => exact ⟨e, sentence, rfl⟩
  | cons piece pieces ih =>
    have others : ∀ gap, .zero gap ∈ pieces → Gap gap :=
      fun gap member => gaps gap (List.mem_cons_of_mem piece member)
    cases piece with
    | stays text =>
      rw [Piece.withZeros_stays, ← List.append_assoc] at sentence
      rw [Piece.withoutZeros_stays, ← List.append_assoc] at reads ⊢
      exact ih others sentence summands reads
    | zero gap =>
      rw [Piece.withZeros_zero] at sentence
      rw [Piece.withoutZeros_zero] at reads ⊢
      obtain ⟨summand, summands⟩ := summands
      have filled : before.trimEnd.getLast? = some '(' →
          (Piece.withZeros pieces).trimStart.head? ≠ some ')' := by
        intro opens closes
        refine reads.not_hollow opens ?_
        rw [Piece.head?_withoutZeros others (by simp [closes]), closes]
      rcases summand.vacate (gaps gap List.mem_cons_self) sentence filled with blank
        | ⟨left, stays, same⟩
      · -- Then nothing at all is left, and nothing is no sentence.
        obtain ⟨starts, ends⟩ := Text.allBlank_append_iff.mp blank
        have none := Text.head?_trimStart_eq_none_iff.mpr ends
        have ends : (Piece.withoutZeros pieces).allBlank = true := by
          rw [← Text.head?_trimStart_eq_none_iff, Piece.head?_withoutZeros others (by simp [none]),
            none]
        have hollow := Text.allBlank_append_iff.mpr ⟨starts, ends⟩
        rw [reads.allBlank_eq_false] at hollow
        cases hollow
      · obtain ⟨result, done, equal⟩ := ih others stays summands reads
        exact ⟨result, done, equal.trans same⟩

theorem Gap.flatMap_lowerChar {gap : Text} (gaps : Gap gap) : gap.flatMap lowerChar = gap := by
  rcases gaps with blank | ⟨op, _, spaced⟩
  · exact Text.flatMap_lowerChar_of_blank blank
  · obtain ⟨before, after, starts, ends, rfl⟩ := spaced
    have sign : [op.symbol].flatMap lowerChar = [op.symbol] := by cases op <;> decide
    rw [List.flatMap_append, List.flatMap_append, sign, Text.flatMap_lowerChar_of_blank starts,
      Text.flatMap_lowerChar_of_blank ends]

namespace Piece

def lower : Piece → Piece
  | stays text => stays (text.flatMap lowerChar)
  | zero gap => zero gap

theorem withoutZeros_lower (pieces : List Piece) :
    withoutZeros (pieces.map lower) = (withoutZeros pieces).flatMap lowerChar := by
  induction pieces with
  | nil => rfl
  | cons piece pieces ih =>
    cases piece with
    | stays text =>
      rw [List.map_cons, lower, withoutZeros_stays, withoutZeros_stays, ih, List.flatMap_append]
    | zero gap => exact ih

theorem withZeros_lower {pieces : List Piece} (gaps : ∀ gap, .zero gap ∈ pieces → Gap gap) :
    withZeros (pieces.map lower) = (withZeros pieces).flatMap lowerChar := by
  induction pieces with
  | nil => rfl
  | cons piece pieces ih =>
    have others := ih fun gap member => gaps gap (List.mem_cons_of_mem piece member)
    cases piece with
    | stays text =>
        rw [List.map_cons, lower, withZeros_stays, withZeros_stays, others, List.flatMap_append]
    | zero gap =>
      have same : gap.flatMap lowerChar = gap := (gaps gap List.mem_cons_self).flatMap_lowerChar
      have zero : room.flatMap lowerChar = room := by decide
      rw [List.map_cons, lower, withZeros_zero, withZeros_zero, others, List.flatMap_append,
        List.flatMap_append, same, zero]

theorem lower_eq_zero_iff {piece : Piece} {gap : Text} :
    piece.lower = .zero gap ↔ piece = .zero gap := by
  cases piece <;> simp [lower]

/-- Where every zero is a summand of its own, the texts with the zeros and without them come to the
same. -/
theorem outcome_withoutZeros {pieces : List Piece} {e left : DiceExpr}
    (gaps : ∀ gap, .zero gap ∈ pieces → Gap gap)
    (summands : OnlySummands [] (pieces.map lower))
    (zeros : DiceExpr.parse (withZeros pieces) = .ok e)
    (reads : DiceExpr.parse (withoutZeros pieces) = .ok left) : left.outcome = e.outcome := by
  have full := DiceExpr.sentence_of_parse zeros
  have bare := DiceExpr.sentence_of_parse reads
  rw [Text.lowercase_eq_flatMap full.exprChars, ← withZeros_lower gaps] at full
  rw [Text.lowercase_eq_flatMap bare.exprChars, ← withoutZeros_lower] at bare
  have lowered : ∀ gap, .zero gap ∈ pieces.map lower → Gap gap := by
    intro gap member
    obtain ⟨piece, listed, same⟩ := List.mem_map.mp member
    exact gaps gap (lower_eq_zero_iff.mp same ▸ listed)
  obtain ⟨last, sentence, same⟩ := @Sentence.withoutZeros [] _ _ _ lowered full summands bare
  rw [List.nil_append, withoutZeros_lower] at sentence
  have again : DiceExpr.parse (withoutZeros pieces) = .ok last := by
    apply DiceExpr.parse_of_sentence
    rwa [Text.lowercase_eq_flatMap (DiceExpr.sentence_of_parse reads).exprChars]
  obtain rfl := Except.ok.inj (reads.symm.trans again)
  exact same

end Piece

end Tabletop
