import Tabletop.Proofs.Reading.Templates

/-! Cuts through a sentence. A zero in parentheses lies on one side of every place where the grammar
cuts a text in two, and the plus or minus before it is in front of the text that holds it or between
the two. The blanks at the end of a sentence can be exchanged for others. -/
namespace Tabletop

open Text (room)

theorem split_around_room {s t before after : Text} (closed : Nested s)
    (same : s ++ t = before ++ (room ++ after)) :
    (∃ rest, s = before ++ (room ++ rest) ∧ after = rest ++ t) ∨
      ∃ rest, before = s ++ rest ∧ t = rest ++ (room ++ after) := by
  rcases List.append_eq_append_iff.mp same with ⟨rest, left, right⟩ | ⟨part, left, right⟩
  · exact .inr ⟨rest, left, right⟩
  rcases List.append_eq_append_iff.mp right with ⟨rest, rfl, behind⟩ | ⟨rest, cut, rfl⟩
  · exact .inl ⟨rest, left, behind⟩
  have inside : ∀ first last, part = first ++ '(' :: last → ')' ∈ last := fun first last split =>
    closed.closed (before ++ first) last (by rw [left, split, List.append_assoc])
  rcases Text.split_room cut inside with rfl | rfl
  · exact .inr ⟨[], by simpa using left.symm, by rw [cut]; rfl⟩
  · rw [List.append_nil] at cut
    exact .inl ⟨[], by rw [left, cut, List.append_nil], rfl⟩

theorem Spaced.split_before_room {core mid t before after : Text} (spaced : Spaced core mid)
    (unopened : '(' ∉ core) (same : mid ++ t = before ++ (room ++ after)) :
    ∃ rest, before = mid ++ rest ∧ t = rest ++ (room ++ after) := by
  have fresh : '(' ∉ mid := spaced.not_mem (by decide) unopened
  rcases List.append_eq_append_iff.mp same with found | ⟨part, rfl, right⟩
  · exact found
  · cases part with
    | nil => exact ⟨[], by simp, right.symm⟩
    | cons c part =>
      obtain ⟨rfl, _⟩ := List.cons.inj right
      exact absurd (List.mem_append_right before List.mem_cons_self) fresh

/-- A text whose last character is neither a blank nor an operator. -/
def Concluded (stem : Text) : Prop :=
  ∀ c ∈ stem.getLast?, isBlank c = false ∧ ∀ op : Op, c ≠ op.symbol

theorem Concluded.trimEnd {stem : Text} (concluded : Concluded stem) : stem.trimEnd = stem :=
  Text.trimEnd_eq_self_iff.mpr fun nonempty =>
    Bool.eq_false_iff.mp (concluded _ (List.getLast?_eq_some_getLast nonempty)).1

theorem Concluded.eq_nil_of_blank {first blank : Text} (concluded : Concluded (first ++ blank))
    (blanks : blank.allBlank = true) : blank = [] := by
  rcases List.eq_nil_or_concat' blank with rfl | ⟨start, c, rfl⟩
  · rfl
  · have visible := (concluded c (by simp)).1
    rw [List.all_eq_true.mp blanks c (by simp)] at visible
    cases visible

theorem not_concluded_of_operator (op : Op) (first : Text) {blank : Text}
    (blanks : blank.allBlank = true) : ¬ Concluded (first ++ op.symbol :: blank) := by
  intro concluded
  rw [← List.singleton_append, ← List.append_assoc] at concluded
  obtain rfl := concluded.eq_nil_of_blank blanks
  exact (concluded op.symbol (by simp)).2 op rfl

theorem Spaced.of_visible {c d : Char} {first rest : Text}
    (spaced : Spaced [d] (first ++ c :: rest))
    (visible : isBlank c = false) : c = d ∧ first.allBlank = true ∧ rest.allBlank = true := by
  obtain ⟨before, after, starts, ends, same⟩ := spaced
  rcases Text.split_append same with ⟨mid, rfl, later⟩ | ⟨mid, rfl, rfl⟩
  · cases mid with
    | nil =>
      obtain ⟨rfl, rfl⟩ := List.cons.inj later
      exact ⟨rfl, by simpa using starts, ends⟩
    | cons m mid =>
      obtain ⟨rfl, _⟩ := List.cons.inj later
      exact absurd (List.mem_append_right first List.mem_cons_self)
        (Text.not_mem_of_allBlank visible starts)
  · exact absurd (List.mem_append_right mid List.mem_cons_self)
      (Text.not_mem_of_allBlank visible ends)

theorem Gap.of_visible {c : Char} {first rest : Text} (gaps : Gap (first ++ c :: rest))
    (visible : isBlank c = false) :
    (∃ op : Op, op.isMultiplicative = false ∧ c = op.symbol) ∧
      first.allBlank = true ∧ rest.allBlank = true := by
  rcases gaps with blank | ⟨op, additive, spaced⟩
  · exact absurd (List.mem_append_right first List.mem_cons_self)
      (Text.not_mem_of_allBlank visible blank)
  · obtain ⟨same, starts, ends⟩ := spaced.of_visible visible
    exact ⟨⟨op, additive, same⟩, starts, ends⟩

theorem Gap.split_at_opening {stem gap first before : Text} (gaps : Gap gap)
    (same : stem ++ gap = first ++ '(' :: before) :
    ∃ rest, stem = first ++ '(' :: rest ∧ before = rest ++ gap := by
  rcases Text.split_append same with ⟨mid, _, rfl⟩ | found
  · obtain ⟨⟨op, _, symbol⟩, _⟩ := gaps.of_visible (by decide)
    cases op <;> cases symbol
  · exact found

theorem Gap.split {stem gap first mid before : Text} {op : Op} (gaps : Gap gap)
    (concluded : Concluded stem) (spaced : Spaced [op.symbol] mid)
    (same : stem ++ gap = first ++ (mid ++ before)) :
    (∃ rest, rest ≠ [] ∧ stem = first ++ (mid ++ rest) ∧ before = rest ++ gap) ∨
      op.isMultiplicative = false ∧ before.allBlank = true ∧
        ∃ blank : Text, blank.allBlank = true ∧ first = stem ++ blank := by
  obtain ⟨lead, trail, starts, ends, rfl⟩ := spaced
  have whole : stem ++ gap = (first ++ lead) ++ op.symbol :: (trail ++ before) := by
    simpa using same
  rcases Text.split_append whole with ⟨part, left, rfl⟩ | ⟨rest, rfl, behind⟩
  · -- The operator stands in the gap.
    obtain ⟨⟨other, additive, symbol⟩, opens, closes⟩ := gaps.of_visible op.symbol_facts.2.1
    obtain rfl := Op.symbol_injective symbol
    refine .inr ⟨additive, (Text.allBlank_append_iff.mp closes).2, ?_⟩
    rcases List.append_eq_append_iff.mp left with ⟨blank, rfl, rfl⟩ | ⟨blank, rfl, rfl⟩
    · obtain rfl := concluded.eq_nil_of_blank (Text.allBlank_append_iff.mp starts).1
      exact ⟨[], rfl, by simp⟩
    · exact ⟨blank, (Text.allBlank_append_iff.mp opens).1, rfl⟩
  · rcases List.append_eq_append_iff.mp behind with ⟨more, rfl, rfl⟩ | ⟨more, rfl, _⟩
    · refine .inl ⟨more, ?_, by simp, rfl⟩
      rintro rfl
      exact not_concluded_of_operator op _ (by simpa using ends) concluded
    · exact absurd concluded (not_concluded_of_operator op _ (Text.allBlank_append_iff.mp ends).1)

/-- Around an operator the zero is in the left operand, it is in the right one behind something that
stays, or it starts the right one and the operator goes with it. -/
theorem Gap.split_operands {left mid right stem gap after : Text} {op : Op} (gaps : Gap gap)
    (concluded : Concluded stem) (closed : Nested left) (spaced : Spaced [op.symbol] mid)
    (whole : left ++ (mid ++ right) = stem ++ (gap ++ (room ++ after))) :
    (∃ rest, left = stem ++ (gap ++ (room ++ rest)) ∧ after = rest ++ (mid ++ right)) ∨
      (∃ rest, rest ≠ [] ∧ stem = left ++ (mid ++ rest) ∧
        right = rest ++ (gap ++ (room ++ after))) ∨
        op.isMultiplicative = false ∧ ∃ old blank : Text, old.allBlank = true ∧
          blank.allBlank = true ∧ left = stem ++ old ∧ right = blank ++ (room ++ after) := by
  rw [← List.append_assoc stem] at whole
  rcases split_around_room closed whole with ⟨rest, inside, behind⟩ | ⟨before, outside, behind⟩
  · exact .inl ⟨rest, by rw [inside, List.append_assoc], behind⟩
  · obtain ⟨rest, rfl, split⟩ := spaced.split_before_room op.not_opening behind
    rcases gaps.split concluded spaced outside with ⟨start, nonempty, same, rfl⟩
      | ⟨additive, blank, old, blanks, same⟩
    · exact .inr (.inl ⟨start, nonempty, same, by rw [split, List.append_assoc]⟩)
    · exact .inr (.inr ⟨additive, old, rest, blanks, blank, same, split⟩)

theorem trimmed_grouped (text : Text) : Text.Trimmed ('(' :: (text ++ [')'])) where
  ne_nil := List.cons_ne_nil _ _
  start := Text.trimStart_cons (by decide)
  stop := Text.trimEnd_append_visible (by decide) ('(' :: text) []

section Blanks

variable {core stem old new : Text}

theorem Spaced.reblank (spaced : Spaced core (stem ++ old)) (trimmed : core.Trimmed)
    (stop : stem.trimEnd = stem) (blank : old.allBlank = true) (blanks : new.allBlank = true) :
    Spaced core (stem ++ new) := by
  obtain ⟨before, after, starts, ends, same⟩ := spaced
  have ended : stem = before ++ core := by
    rw [← stop, ← Text.trimEnd_append blank, same, ← List.append_assoc, Text.trimEnd_append ends,
      Text.trimEnd_append_trimmed trimmed]
  exact ⟨before, new, starts, blanks, by rw [ended, List.append_assoc]⟩

theorem Sentence.split_blanks {level : Level} {first text : Text} {e : DiceExpr}
    (sentence : Sentence level text e)
    (blank : old.allBlank = true) (same : first ++ text = stem ++ old) :
    ∃ rest, stem = first ++ rest ∧ text = rest ++ old := by
  rcases List.append_eq_append_iff.mp same with found | ⟨part, _, rfl⟩
  · exact found
  · have visible := sentence.allBlank_eq_false
    rw [(Text.allBlank_append_iff.mp blank).2] at visible
    cases visible

theorem Sentence.reblank {level : Level} {text : Text} {e : DiceExpr}
    (sentence : Sentence level text e)
    (same : text = stem ++ old) (stop : stem.trimEnd = stem) (blank : old.allBlank = true)
    (blanks : new.allBlank = true) : Sentence level (stem ++ new) e := by
  induction sentence generalizing stem with
  | ofProduct _ ih => exact .ofProduct (ih same stop)
  | ofUnary _ ih => exact .ofUnary (ih same stop)
  | ofAtom _ ih => exact .ofAtom (ih same stop)
  | @sum left mid right op _ _ first kind spaced last _ ih =>
    rw [← List.append_assoc] at same
    obtain ⟨rest, rfl, behind⟩ := last.split_blanks blank same
    have sentence := Sentence.sum first kind spaced (ih behind (Text.trimEnd_of_append stop))
    simpa only [List.append_assoc] using sentence
  | @product left mid right op _ _ first kind spaced last _ ih =>
    rw [← List.append_assoc] at same
    obtain ⟨rest, rfl, behind⟩ := last.split_blanks blank same
    have sentence := Sentence.product first kind spaced (ih behind (Text.trimEnd_of_append stop))
    simpa only [List.append_assoc] using sentence
  | minus sign last ih =>
    obtain ⟨rest, rfl, behind⟩ := last.split_blanks blank same
    rw [List.append_assoc]
    exact .minus sign (ih behind (Text.trimEnd_of_append stop))
  | plus sign last ih =>
    obtain ⟨rest, rfl, behind⟩ := last.split_blanks blank same
    rw [List.append_assoc]
    exact .plus sign (ih behind (Text.trimEnd_of_append stop))
  | dice term spaced => exact .dice term ((same ▸ spaced).reblank term.trimmed stop blank blanks)
  | number numeral value spaced =>
    exact .number numeral value ((same ▸ spaced).reblank numeral.trimmed stop blank blanks)
  | group inner spaced =>
      exact .group inner ((same ▸ spaced).reblank (trimmed_grouped _) stop blank blanks)

end Blanks

end Tabletop
