import Tabletop.Proofs.Composing.Openings

/-! Bodies of formulas: what is left when the comparator is taken out. Without semicolons a
comparator goes on to the end of the text, so the body is what stands before it; and no sign in
there becomes a comparator once the rest is gone, since it would have been one with the rest as its
value. -/
namespace Tabletop.Comparator

variable {text value body comparator : Text} {sign : Sign}

/-- The text is this comparator, and with a longer sign it would have no value. -/
structure Chosen (sign : Sign) (value text : Text) : Prop extends Written sign value text where
  longest : ∀ (other : Sign) (rest : Text), Written other rest text →
    other.symbol.length ≤ sign.symbol.length

theorem Chosen.unique {other : Sign} {rest : Text} (chosen : Chosen sign value text)
    (again : Chosen other rest text) : sign = other ∧ value = rest := by
  have lengths : sign.symbol.length = other.symbol.length :=
    Nat.le_antisymm (again.longest sign value chosen.toWritten)
      (chosen.longest other rest again.toWritten)
  obtain ⟨symbols, values⟩ := List.append_inj (chosen.split.symm.trans again.split) lengths
  exact ⟨Sign.symbol_injective symbols, values⟩

theorem length_symbol_le_of_inFormula {other : Sign} {rest after : Text}
    (reads : inFormula text = some ((sign, value), after)) (written : Written other rest text) :
    other.symbol.length ≤ sign.symbol.length := by
  obtain ⟨earlier, ⟨first, behind⟩, later, listed, read, refused⟩ :=
    List.findSome?_eq_some_iff.mp reads
  obtain rfl : first = sign := by
    dsimp only at read
    split at read
    · cases read
    · cases read
      rfl
  refine Sign.length_symbol_le_of_listed listed
    (Sign.mem_leading_iff.mpr written.split) fun before => ?_
  -- A sign before the one that is read was refused, so it leaves no value.
  have valued : (rest.takeWhile (· ≠ ';')).isEmpty = false := by
    rw [Text.takeWhile_of_not_mem written.whole]
    exact List.isEmpty_eq_false_iff.mpr written.ne_nil
  have refusal := refused _ before
  simp only [valued, Bool.false_eq_true, if_false, reduceCtorEq] at refusal

theorem inFormula_eq_some_iff :
    inFormula text = some ((sign, value), []) ↔ Chosen sign value text := by
  have chosen_of_reads {sign : Sign} {value : Text}
      (reads : inFormula text = some ((sign, value), [])) : Chosen sign value text := by
    obtain ⟨split, nonempty, fresh⟩ := eq_of_signedValue reads
    rw [List.append_nil] at split
    exact ⟨⟨split, nonempty, fresh⟩, fun _ _ => length_symbol_le_of_inFormula reads⟩
  refine ⟨chosen_of_reads, fun chosen => ?_⟩
  obtain ⟨⟨other, rest⟩, reads, _⟩ := chosen.reads (.inl rfl)
  rw [List.append_nil] at reads
  obtain ⟨rfl, rfl⟩ := chosen.unique (chosen_of_reads reads)
  exact reads

/-- What is taken out behind a body, and how it is written as a comparator. -/
inductive TakenOut : Text → Text → Prop where
  | nothing : TakenOut [] []
  | comparator {sign : Sign} {value rest : Text} (chosen : Chosen sign value rest) :
      TakenOut rest (sign.symbol ++ value.trim)

theorem extract_eq_iff (whole : ';' ∉ text) :
    extract text = (body, comparator) ↔
      ∃ rest, text = body ++ rest ∧ Closed body rest ∧ TakenOut rest comparator := by
  constructor
  · intro parts
    cases first : inFormula.first? text with
    | none =>
      rw [extract_of_none first] at parts
      cases parts
      exact ⟨[], (List.append_nil text).symm, first?_eq_none_iff.mp first, .nothing⟩
    | some found =>
      rw [extract_of_first? first] at parts
      cases parts
      have closed := (found_of_first? first).closed
      obtain ⟨start, split, reads⟩ := Reader.exists_of_first? first
      have ended : found.after = [] :=
        rest_of_signedValue (fun member => whole (split ▸ List.mem_append_right _ member)) reads
      rw [ended] at reads
      have chosen := inFormula_eq_some_iff.mp reads
      rw [ended, List.append_nil, ← chosen.split] at closed
      rw [ended, List.append_nil]
      exact ⟨start, split, closed, .comparator chosen⟩
  · rintro ⟨rest, rfl, closed, taken⟩
    cases taken with
    | nothing => rw [List.append_nil, extract_of_none (first?_eq_none_iff.mpr closed)]
    | comparator chosen =>
      rw [extract_of_first? (first?_of_closed closed (inFormula_eq_some_iff.mpr chosen)),
        List.append_nil]

/-- What is taken out of a text without semicolons is a sign and its value, from where the first
comparator starts to the end; in the body before it there is no other. -/
theorem extract_extract {text : Text} (whole : ';' ∉ text) :
    (∃ rest, text = (extract text).1 ++ rest ∧ Closed (extract text).1 rest ∧
      TakenOut rest (extract text).2) ∧ extract (extract text).1 = ((extract text).1, []) := by
  have parts : extract text = ((extract text).1, (extract text).2) := rfl
  obtain ⟨rest, split, closed, taken⟩ := (extract_eq_iff whole).mp parts
  have unparted : ';' ∉ (extract text).1 := fun member => whole <| by
    rw [split]
    exact List.mem_append_left rest member
  have again : extract (extract text).1 = ((extract text).1, []) :=
    (extract_eq_iff unparted).mpr ⟨[], (List.append_nil _).symm, closed.alone, .nothing⟩
  exact ⟨⟨rest, split, closed, taken⟩, again⟩

theorem extract_extract_ending :
    ';' ∉ ['d', '6', '!', '>', '='] ∧
      (∃ rest, ['d', '6', '!', '>', '='] = ['d', '6', '!'] ++ rest ∧ Closed ['d', '6', '!'] rest ∧
        TakenOut rest ['>', '=']) ∧
      extract ['d', '6', '!'] = (['d', '6', '!'], []) :=
  have whole : ';' ∉ ['d', '6', '!', '>', '='] := by decide
  ⟨whole, extract_extract whole⟩

end Tabletop.Comparator
