import Tabletop.Proofs.Composing.Openings

/-! Thresholds that are overridden. An override with a sign takes the place of the first comparator,
one without a sign that of its value, and the rest of the text stays. When an override changes
nothing the second time, and when the comparator is still found where the expression before it
ends. -/
namespace Tabletop.Comparator

variable {formula text before next value rest : Text} {sign : Sign} {override : Option Text}

def beforeComparator (formula : Text) : Text :=
  match inFormula.first? formula with
  | some found => found.before
  | none => formula

theorem startsWithSign_trim_iff :
    startsWithSign text.trim = true ↔ ∃ sign : Sign, sign.symbol <+: text.trim := by
  have start : text.trim.trimStart = text.trim := (Text.trim_eq_self_iff.mp (Text.trim_trim text)).1
  rw [startsWithSign, start, Bool.not_eq_true', List.isEmpty_eq_false_iff,
    List.ne_nil_iff_exists_cons]
  constructor
  · rintro ⟨⟨sign, rest⟩, others, leads⟩
    exact ⟨sign, rest, (Sign.eq_append_of_mem_leading (leads ▸ List.mem_cons_self)).symm⟩
  · rintro ⟨sign, rest, split⟩
    exact List.exists_cons_of_ne_nil (List.ne_nil_of_mem (Sign.mem_leading_iff.mpr split.symm))

section Given

variable (given : (override.getD []).trim ≠ [])

include given

theorem overridden_of_none (unfound : inFormula.first? formula = none) :
    overridden override formula =
      if startsWithSign (override.getD []).trim then formula ++ (override.getD []).trim
      else formula := by
  have full : (override.getD []).trim.isEmpty = false := by simpa using given
  simp only [overridden, full, unfound, Bool.false_eq_true, if_false]

theorem overridden_of_some {found : Occurrence (Sign × Text)}
    (first : inFormula.first? formula = some found) :
    overridden override formula = found.before ++
      ((if startsWithSign (override.getD []).trim then (override.getD []).trim
        else found.value.1.symbol ++ (override.getD []).trim) ++ found.after) := by
  have full : (override.getD []).trim.isEmpty = false := by simpa using given
  simp only [overridden, full, first, Bool.false_eq_true, if_false]
  split <;> simp only [List.append_assoc]

end Given

theorem given_of_startsWithSign (signed : startsWithSign (override.getD []).trim = true) :
    (override.getD []).trim ≠ [] := by
  intro empty
  rw [empty] at signed
  cases signed

theorem overridden_eq_self_iff_of_sign (signed : startsWithSign (override.getD []).trim = true) :
    overridden override text = text ↔ ∃ found, inFormula.first? text = some found ∧
      found.value.1.symbol ++ found.value.2 = (override.getD []).trim := by
  have given := given_of_startsWithSign signed
  cases first : inFormula.first? text with
  | none => simp [overridden_of_none given first, signed, given]
  | some found =>
    rw [overridden_of_some given first, if_pos signed]
    conv_lhs => rhs; rw [(found_of_first? first).split]
    simp only [List.append_cancel_left_eq, List.append_cancel_right_eq, Option.some.injEq,
      exists_eq_left', eq_comm]

theorem overridden_eq_self_iff_of_signless
    (signless : startsWithSign (override.getD []).trim = false)
    (given : (override.getD []).trim ≠ []) : overridden override text = text ↔
      ∀ found, inFormula.first? text = some found → found.value.2 = (override.getD []).trim := by
  cases first : inFormula.first? text with
  | none => simp [overridden_of_none given first, signless]
  | some found =>
    rw [overridden_of_some given first, if_neg (by simp [signless])]
    conv_lhs => rhs; rw [(found_of_first? first).split]
    simp only [List.append_cancel_left_eq, List.append_cancel_right_eq, Option.some.injEq,
      forall_eq', eq_comm]

theorem exists_overridden_of_sign (signed : startsWithSign (override.getD []).trim = true)
    (formula : Text) :
    ∃ next rest, Closed (beforeComparator formula) next ∧ (rest = [] ∨ ∃ more, rest = ';' :: more) ∧
      overridden override formula = beforeComparator formula ++
        ((override.getD []).trim ++ rest) := by
  have given := given_of_startsWithSign signed
  unfold beforeComparator
  cases first : inFormula.first? formula with
  | none =>
    refine ⟨[], [], first?_eq_none_iff.mp first, .inl rfl, ?_⟩
    simp [overridden_of_none given first, signed]
  | some found =>
    obtain ⟨_, _, ends, closed⟩ := found_of_first? first
    refine ⟨_, found.after, closed, ends, ?_⟩
    simp [overridden_of_some given first, signed]

theorem first?_append_iff {new : Text} (closed : Closed before next)
    (ends : rest = [] ∨ ∃ more, rest = ';' :: more) :
    (∃ found, inFormula.first? (before ++ (new ++ rest)) = some found ∧
        found.value.1.symbol ++ found.value.2 = new) ↔
      (∃ sign value, Written sign value new) ∧ ¬ JoinsSign before new := by
  constructor
  · rintro ⟨found, first, rfl⟩
    obtain ⟨_, written, _, earlier⟩ := found_of_first? first
    rw [before_eq_of_first? closed ends first] at earlier
    exact ⟨⟨_, _, written⟩, earlier.apart written _⟩
  · rintro ⟨⟨sign, value, written⟩, apart⟩
    have nonempty : new ≠ [] := by
      rw [written.split]
      exact List.append_ne_nil_of_right_ne_nil _ written.ne_nil
    obtain ⟨found, reads, spelled⟩ := written.reads ends
    have still : Closed before (new ++ rest) :=
      closed.of_apart fun joins => apart (joins.of_append nonempty)
    exact ⟨_, first?_of_closed still reads, spelled⟩

theorem value_of_overridden (signless : startsWithSign (override.getD []).trim = false)
    (given : (override.getD []).trim ≠ []) (unparted : ';' ∉ (override.getD []).trim)
    {found : Occurrence (Sign × Text)}
    (first : inFormula.first? (overridden override formula) = some found) :
    found.value.2 = (override.getD []).trim := by
  have starts : (override.getD []).trim.head? ≠ some '=' := by
    intro equal
    obtain ⟨more, split⟩ := List.head?_eq_some_iff.mp equal
    rw [startsWithSign_trim_iff.mpr ⟨.equal, more, split.symm⟩] at signless
    contradiction
  cases earlier : inFormula.first? formula with
  | none =>
    rw [overridden_of_none given earlier, if_neg (by simp [signless]), earlier] at first
    cases first
  | some old =>
    obtain ⟨_, written, ends, closed⟩ := found_of_first? earlier
    have again := first?_of_closed (closed.of_apart (closed.apart written _))
      (inFormula_append starts given unparted ends)
    rw [overridden_of_some given earlier, if_neg (by simp [signless]), List.append_assoc,
      again] at first
    rw [← Option.some.inj first]

/-- An override that is made again changes nothing more exactly when it is settled: one with a sign
has to be a comparator to its end and to make no sign with the text before it; one without a sign
must not be parted by a semicolon, unless no comparator is left. -/
theorem overridden_twice_iff {override : Option Text} {formula : Text} :
    overridden override (overridden override formula) = overridden override formula ↔
      (startsWithSign (override.getD []).trim = true →
        (∃ sign value, Written sign value (override.getD []).trim) ∧
          ¬ JoinsSign (beforeComparator formula) (override.getD []).trim) ∧
      (startsWithSign (override.getD []).trim = false → ';' ∈ (override.getD []).trim →
        inFormula.occursIn (overridden override formula) = false) := by
  cases signed : startsWithSign (override.getD []).trim with
  | true =>
    obtain ⟨next, rest, closed, ends, changed⟩ := exists_overridden_of_sign signed formula
    rw [overridden_eq_self_iff_of_sign signed, changed, first?_append_iff closed ends]
    simp
  | false =>
    by_cases given : (override.getD []).trim = []
    · simp [overridden, given]
    · rw [overridden_eq_self_iff_of_signless signed given]
      constructor
      · refine fun settled => ⟨by simp, fun _ parted => ?_⟩
        refine Bool.eq_false_iff.mpr fun occurs => ?_
        obtain ⟨found, first⟩ := Option.isSome_iff_exists.mp occurs
        exact (found_of_first? first).written.whole (settled found first ▸ parted)
      · rintro ⟨_, unfound⟩ found first
        refine value_of_overridden signed given (fun parted => ?_) first
        have none := unfound rfl parted
        simp [Reader.occursIn, first] at none

/-- A sign alone is no comparator, so it is added once more. -/
theorem overridden_lone_sign :
    overridden (some ['>']) (overridden (some ['>']) ['2', 'd', '6']) ≠ overridden (some ['>'])
    ['2', 'd', '6'] := by
  decide

variable {body comparator : Text}

theorem first?_behind (signless : ∀ c ∈ body, Sign.isSignChar c = false) {found : Sign × Text}
    (reads : inFormula comparator = some (found, [])) :
    inFormula.first? (body ++ comparator) = some ⟨body, found, Reader.taken comparator [], []⟩ :=
  first?_of_closed (closed_of_signless signless comparator) reads

theorem Written.reads_whole (written : Written sign value text) :
    ∃ found, inFormula text = some (found, []) := by
  obtain ⟨found, reads, _⟩ := written.reads (.inl rfl)
  rw [List.append_nil] at reads
  exact ⟨found, reads⟩

theorem extract_behind (signless : ∀ c ∈ body, Sign.isSignChar c = false)
    (written : Written sign value comparator) : (extract (body ++ comparator)).1 = body := by
  obtain ⟨found, reads⟩ := written.reads_whole
  simp only [extract_of_first? (first?_behind signless reads), List.append_nil]

/-- The override leaves a text behind the body, and the body is what stands before the comparator of
the result. -/
structure Leaves (override formula body more : Text) : Prop where
  changed : overridden (some override) formula = body ++ more
  found : (extract (overridden (some override) formula)).1 = body

theorem leaves_of_written {override : Text} (signless : ∀ c ∈ body, Sign.isSignChar c = false)
    (changed : overridden (some override) formula = body ++ comparator)
    (written : Written sign value comparator) : Leaves override formula body comparator :=
  ⟨changed, by rw [changed, extract_behind signless written]⟩

/-- Behind an expression, an override with a sign and a value takes the place of the comparator, one
without a sign that of its value, and the comparator is found where the expression ends. -/
theorem overridden_behind {override : Text} {expr : DiceExpr}
    (reads : DiceExpr.parse body = .ok expr)
    (written : comparator = [] ∨ ∃ sign value, Written sign value comparator)
    (visible : override.trim ≠ []) (unparted : ';' ∉ override) :
    ((∃ sign value, Written sign value override.trim) →
      Leaves override (body ++ comparator) body override.trim) ∧
      ((∀ sign : Sign, ¬ sign.symbol <+: override.trim) →
        (comparator = [] → Leaves override (body ++ comparator) body []) ∧
          ∀ sign value, Written sign value comparator → value.head? ≠ some '=' →
            Leaves override (body ++ comparator) body (sign.symbol ++ override.trim)) := by
  have signless := DiceExpr.signless_of_parse reads
  have alone : inFormula.first? body = none :=
    first?_eq_none_iff.mpr (closed_of_signless signless [])
  have given : ((some override).getD []).trim ≠ [] := visible
  refine ⟨?_, fun unsigned => ?_⟩
  · rintro ⟨sign, value, new⟩
    have signed : startsWithSign override.trim = true :=
      startsWithSign_trim_iff.mpr ⟨sign, value, new.split.symm⟩
    refine leaves_of_written signless ?_ new
    rcases written with rfl | ⟨sign, value, known⟩
    · rw [List.append_nil, overridden_of_none given alone]
      exact if_pos signed
    · obtain ⟨found, reads⟩ := known.reads_whole
      rw [overridden_of_some given (first?_behind signless reads)]
      simp [signed]
  · have bare : startsWithSign override.trim = false :=
      Bool.eq_false_iff.mpr fun signed => (startsWithSign_trim_iff.mp signed).elim unsigned
    refine ⟨?_, fun sign value known next => ?_⟩
    · rintro rfl
      have changed : overridden (some override) (body ++ []) = body := by
        rw [List.append_nil, overridden_of_none given alone]
        exact if_neg (by simp [bare])
      exact ⟨changed.trans (List.append_nil body).symm, by rw [changed, extract_signless signless]⟩
    · have reads : inFormula comparator = some ((sign, value), []) := by
        have whole : inFormula (sign.symbol ++ (value ++ [])) = some ((sign, value), []) :=
          inFormula_append next known.ne_nil known.whole (.inl rfl)
        rwa [List.append_nil, ← known.split] at whole
      refine leaves_of_written signless ?_ ⟨rfl, visible, not_mem_trim unparted⟩
      rw [overridden_of_some given (first?_behind signless reads)]
      simp [bare]

theorem overridden_behind_raised :
    DiceExpr.parse ['2', 'd', '6', ' '] = .ok (.leaf ⟨2, 6, []⟩) ∧
      Written .atLeast [' ', '1', '0'] ['>', '=', ' ', '1', '0'] ∧
      (∀ sign : Sign, ¬ sign.symbol <+: Text.trim [' ', '1', '5']) ∧
      Leaves [' ', '1', '5'] ['2', 'd', '6', ' ', '>', '=', ' ', '1', '0'] ['2', 'd', '6', ' ']
        ['>', '=', '1', '5'] := by
  have reads : DiceExpr.parse ['2', 'd', '6', ' '] = .ok (.leaf ⟨2, 6, []⟩) :=
    DiceExpr.parse_eq_ok_iff_parse?.mpr (by decide +kernel)
  have written : Written .atLeast [' ', '1', '0'] ['>', '=', ' ', '1', '0'] :=
    ⟨rfl, by decide, by decide⟩
  have unsigned : ∀ sign : Sign, ¬ sign.symbol <+: Text.trim [' ', '1', '5'] := by
    intro sign
    cases sign <;> decide
  have behind :=
    overridden_behind reads (.inr ⟨_, _, written⟩) (by decide) (by decide : ';' ∉ [' ', '1', '5'])
  exact ⟨reads, written, unsigned, (behind.2 unsigned).2 _ _ written (by decide)⟩

end Tabletop.Comparator
