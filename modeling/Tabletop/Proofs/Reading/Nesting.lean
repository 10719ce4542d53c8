import Tabletop.Proofs.Reading.Characters
import Tabletop.Proofs.Scanning
import Tabletop.Proofs.Trimming

/-! Parentheses in sentences. Each has its partner, what innermost parentheses hold is itself a
sentence, and a sentence without operators and parentheses is a number or a dice term, with blanks
around it but not inside. -/
namespace Tabletop

theorem Text.split_append {s t before after : Text} {c : Char}
    (same : s ++ t = before ++ c :: after) :
    (∃ mid, before = s ++ mid ∧ t = mid ++ c :: after) ∨
      ∃ rest, s = before ++ c :: rest ∧ after = rest ++ t := by
  rcases List.append_eq_append_iff.mp same with ⟨mid, first, second⟩ | ⟨mid, first, second⟩
  · exact .inl ⟨mid, first, second⟩
  · rcases List.append_eq_cons_iff.mp second.symm with ⟨rfl, start⟩ | ⟨rest, rfl, behind⟩
    · exact .inl ⟨[], by simpa using first.symm, start⟩
    · exact .inr ⟨rest, first, behind⟩

theorem Text.eq_of_first {s t after rest : Text} {c : Char} (fresh : c ∉ s) (other : c ∉ t)
    (same : s ++ c :: after = t ++ c :: rest) : s = t := by
  have left := cutAt?_append_of_not_mem fresh (c :: after)
  have right := cutAt?_append_of_not_mem other (c :: rest)
  rw [← same, left] at right
  have parts : s = t ∧ after = rest := by simpa [cutAt?] using right
  exact parts.1

/-- Every parenthesis has a partner on the side that it opens to, and innermost parentheses hold a
sentence. -/
structure Nested (text : Text) : Prop where
  closed : ∀ before after, text = before ++ '(' :: after → ')' ∈ after
  opened : ∀ before after, text = before ++ ')' :: after → '(' ∈ before
  inner : ∀ before name after, text = before ++ '(' :: (name ++ ')' :: after) → '(' ∉ name →
    ')' ∉ name → ∃ e, Sentence .sum name e

namespace Nested

variable {s t : Text}

theorem of_not_mem (unopened : '(' ∉ s) (unclosed : ')' ∉ s) : Nested s where
  closed := by
    rintro before after rfl
    exact absurd (List.mem_append_right before List.mem_cons_self) unopened
  opened := by
    rintro before after rfl
    exact absurd (List.mem_append_right before List.mem_cons_self) unclosed
  inner := by
    rintro before name after rfl _ _
    exact absurd (List.mem_append_right before List.mem_cons_self) unopened

theorem inner_append (nested : Nested s) {before rest name after : Text}
    (split : s = before ++ '(' :: rest)
    (same : rest ++ t = name ++ ')' :: after) (unopened : '(' ∉ name) (unclosed : ')' ∉ name) :
    ∃ e, Sentence .sum name e := by
  obtain ⟨first, others, rfl, fresh⟩ := List.eq_append_cons_of_mem (nested.closed before rest split)
  rw [List.append_assoc, List.cons_append] at same
  obtain rfl := Text.eq_of_first fresh unclosed same
  exact nested.inner before first others split unopened unclosed

theorem append (first : Nested s) (second : Nested t) : Nested (s ++ t) where
  closed := by
    intro before after same
    rcases Text.split_append same with ⟨mid, _, split⟩ | ⟨rest, split, rfl⟩
    · exact second.closed mid after split
    · exact List.mem_append_left t (first.closed before rest split)
  opened := by
    intro before after same
    rcases Text.split_append same with ⟨mid, rfl, split⟩ | ⟨rest, split, _⟩
    · exact List.mem_append_right s (second.opened mid after split)
    · exact first.opened before rest split
  inner := by
    intro before name after same unopened unclosed
    rcases Text.split_append same with ⟨mid, _, split⟩ | ⟨rest, split, behind⟩
    · exact second.inner mid name after split unopened unclosed
    · exact first.inner_append split behind.symm unopened unclosed

theorem grouped (nested : Nested s) {e : DiceExpr} (sentence : Sentence .sum s e) :
    Nested ('(' :: (s ++ [')'])) where
  closed := by
    intro before after same
    rcases List.append_eq_cons_iff.mp same.symm with ⟨_, start⟩ | ⟨others, _, split⟩
    · rw [(List.cons.inj start).2]
      simp
    · rcases Text.split_append split with ⟨mid, _, close⟩ | ⟨rest, inside, rfl⟩
      · cases mid with
        | nil => cases close
        | cons c mid => simp at close
      · exact List.mem_append_left _ (nested.closed others rest inside)
  opened := by
    intro before after same
    rcases List.append_eq_cons_iff.mp same.symm with ⟨_, start⟩ | ⟨others, rfl, _⟩
    · cases (List.cons.inj start).1
    · exact List.mem_cons_self
  inner := by
    intro before name after same unopened unclosed
    rcases List.append_eq_cons_iff.mp same.symm with ⟨_, start⟩ | ⟨others, _, split⟩
    · have inside : s ++ [')'] = name ++ ')' :: after := (List.cons.inj start).2.symm
      by_cases closes : ')' ∈ s
      · -- then the first one has its partner before it, inside the name
        obtain ⟨first, rest, rfl, fresh⟩ := List.eq_append_cons_of_mem closes
        rw [List.append_assoc, List.cons_append] at inside
        obtain rfl := Text.eq_of_first fresh unclosed inside
        exact absurd (nested.opened first rest rfl) unopened
      · obtain rfl := Text.eq_of_first closes unclosed inside
        exact ⟨e, sentence⟩
    · rcases Text.split_append split with ⟨mid, _, close⟩ | ⟨rest, split, behind⟩
      · cases mid with
        | nil => cases close
        | cons c mid => simp at close
      · exact nested.inner_append split behind.symm unopened unclosed

end Nested

theorem nested_of_allBlank {text : Text} (blank : text.allBlank = true) : Nested text :=
  .of_not_mem (Text.not_mem_of_allBlank (by decide) blank)
    (Text.not_mem_of_allBlank (by decide) blank)

theorem Spaced.nested {core text : Text} (spaced : Spaced core text) (nested : Nested core) :
    Nested text := by
  obtain ⟨before, after, starts, ends, rfl⟩ := spaced
  exact (nested_of_allBlank starts).append (nested.append (nested_of_allBlank ends))

theorem nested_of_termChars {core : Text} (inside : core.all isTermChar = true) : Nested core :=
  .of_not_mem (Text.not_mem_of_all inside (by decide)) (Text.not_mem_of_all inside (by decide))

theorem Op.nested (op : Op) : Nested [op.symbol] := by
  cases op <;> exact .of_not_mem (by decide) (by decide)

theorem Sentence.nested {level : Level} {text : Text} {e : DiceExpr}
    (sentence : Sentence level text e) : Nested text := by
  induction sentence with
  | ofProduct _ ih | ofUnary _ ih | ofAtom _ ih => exact ih
  | sum _ _ mid _ left right | product _ _ mid _ left right =>
    exact left.append ((mid.nested (Op.nested _)).append right)
  | minus sign _ ih | plus sign _ ih =>
      exact (sign.nested (.of_not_mem (by decide) (by decide))).append ih
  | dice term spaced => exact spaced.nested (nested_of_termChars term.termChars)
  | number numeral _ spaced => exact spaced.nested (nested_of_termChars numeral.termChars)
  | group inner spaced ih => exact spaced.nested (ih.grouped inner)

theorem visible_of_isTermChar {c : Char} (used : isTermChar c = true) : isBlank c = false := by
  refine Bool.eq_false_iff.mpr fun blank => ?_
  simp only [isTermChar, isAlphanum_of_isBlank blank, Bool.false_or, beq_iff_eq] at used
  rw [used] at blank
  cases blank

theorem trimmed_of_termChars {core : Text} (nonempty : core ≠ [])
    (inside : core.all isTermChar = true) : core.Trimmed :=
  Text.trimmed_of_visible nonempty fun c member =>
    visible_of_isTermChar (List.all_eq_true.mp inside c member)

theorem DiceTerm.trimmed {core : Text} {dice : Dice} (term : DiceTerm core dice) :
    core.Trimmed := by
  obtain ⟨c, first, _⟩ := term.head_facts
  exact trimmed_of_termChars (fun empty => by simp [empty] at first) term.termChars

theorem Numeral.trimmed {core : Text} (numeral : Numeral core) : core.Trimmed :=
  trimmed_of_termChars numeral.ne_nil numeral.termChars

def joiningMarks : List Char := ['+', '-', '*', '/', '\\', '(', ')']

theorem Spaced.mem {core text : Text} (spaced : Spaced core text) {c : Char} (member : c ∈ core) :
    c ∈ text := by
  obtain ⟨before, after, _, _, rfl⟩ := spaced
  exact List.mem_append_right before (List.mem_append_left after member)

theorem Sentence.core {level : Level} {text : Text} {e : DiceExpr}
    (sentence : Sentence level text e) (bare : ∀ c ∈ joiningMarks, c ∉ text) :
    ∃ core, Spaced core text ∧ ((∃ dice, DiceTerm core dice) ∨ Numeral core) := by
  have symbol : ∀ op : Op, op.symbol ∈ joiningMarks := fun op => by cases op <;> decide
  induction sentence with
  | ofProduct _ ih | ofUnary _ ih | ofAtom _ ih => exact ih bare
  | @sum left mid right op _ _ _ _ spaced _ _ _ | @product left mid right op _ _ _ _ spaced _ _ _ =>
    exact absurd (by simp [spaced.mem List.mem_cons_self]) (bare op.symbol (symbol op))
  | minus sign _ _ =>
      exact absurd (List.mem_append_left _ (sign.mem List.mem_cons_self)) (bare '-' (by decide))
  | plus sign _ _ =>
      exact absurd (List.mem_append_left _ (sign.mem List.mem_cons_self)) (bare '+' (by decide))
  | dice term spaced => exact ⟨_, spaced, .inl ⟨_, term⟩⟩
  | number numeral _ spaced => exact ⟨_, spaced, .inr numeral⟩
  | group _ spaced _ => exact absurd (spaced.mem List.mem_cons_self) (bare '(' (by decide))

end Tabletop
