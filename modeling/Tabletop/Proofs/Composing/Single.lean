import Tabletop.Proofs.Composing.Resolving
import Tabletop.Proofs.Composing.Segments

/-! Single rolls are read back as they were composed. The body, the comparator and the comment are
joined to one text, and the engine cuts that text at the same places: it rolls one segment for the
body, tests it against the clause of the comparator, and takes the comment off the end. -/
namespace Tabletop

namespace Engine

theorem splitComment_of_plain {text : Text} (unopened : '[' ∉ text) (hashless : '#' ∉ text) :
    splitComment text = (text.trim, none) := by
  simp only [splitComment, bracket_first?_eq_none unopened, Text.cutAt?_eq_none_iff.mpr hashless]

theorem splitGlobalComment_of_whole {text : Text} (whole : ';' ∉ text) :
    splitGlobalComment text = ([text.takeWhile (· ≠ '#')], written? text) :=
  splitGlobalComment_eq ((Parts.last (unbroken_of_not_mem whole)).fragments_eq.trans
    (List.nil_append _).symm)

theorem splitGlobalComment_composed {stem comment : Text} (unparted : ';' ∉ stem)
    (hashless : '#' ∉ stem)
    (shape : comment = [] ∨ ∃ text, comment = '#' :: text) (quiet : ';' ∉ comment) :
    ∃ part : Text, splitGlobalComment (Text.trim (Text.trimEnd (stem ++ ' ' :: comment))) =
        ([part], Text.unlessEmpty (Text.trim (comment.drop 1))) ∧
      part.trim = stem.trim ∧ ∀ m, m ∉ stem → m ≠ ' ' → m ∉ part := by
  have spaced : (stem ++ [' ']).trim = stem.trim := Text.trim_append (by decide)
  rw [Text.trim_trimEnd, List.append_cons]
  rcases shape with rfl | ⟨text, rfl⟩
  · refine ⟨stem.trim, ?_, Text.trim_trim stem, fun m fresh _ => not_mem_trim fresh⟩
    have hashless := not_mem_trim hashless
    rw [List.append_nil, spaced, splitGlobalComment_of_whole (not_mem_trim unparted),
      Text.takeWhile_of_not_mem hashless, written?_of_not_mem hashless]
    rfl
  · have among (m : Char) (fresh : m ∉ stem) (other : m ≠ ' ') : m ∉ (stem ++ [' ']).trimStart := by
      intro member
      have member := Text.mem_of_mem_trimStart member
      simp [fresh, other] at member
    refine ⟨(stem ++ [' ']).trimStart, ?_, by rw [Text.trim_trimStart, spaced], among⟩
    have hashless := among '#' hashless (by decide)
    have whole : ';' ∉ (stem ++ [' ']).trimStart ++ '#' :: Text.trimEnd text := by
      have behind : ';' ∉ Text.trimEnd text := fun member =>
        quiet (List.mem_cons_of_mem _ (Text.mem_of_mem_trimEnd member))
      simp [among ';' unparted (by decide), behind]
    rw [Text.trim, Text.trimStart_append_visible (by decide),
      Text.trimEnd_append_visible (by decide), splitGlobalComment_of_whole whole,
      written?_append hashless, Text.takeWhile_append_stop (by decide),
      Text.takeWhile_of_not_mem hashless, Text.trim_trimEnd]
    rfl

theorem exists_segment_of_roll {limit : Option Nat} {text part : Text} {comment : Option Text}
    {faces rest : Faces} {outcome : Outcome}
    (cut : splitGlobalComment text.trim = ([part], comment))
    (done : (roll limit text).run faces = (.ok outcome, rest)) :
    ∃ segment, outcome.segments = [segment] ∧ outcome.comment = comment ∧
      Rolls (splitComment part).1 (splitComment part).2 segment := by
  obtain ⟨rolled, some, commented⟩ := rolledFrom_of_roll done
  rw [cut] at rolled commented
  generalize outcome.segments = segments at rolled some ⊢
  cases blank : part.allBlank with
  | true =>
    simp only [List.filter_cons, blank, Bool.not_true, Bool.false_eq_true, if_false,
      List.filter_nil] at rolled
    cases rolled
    contradiction
  | false =>
    simp only [List.filter_cons, blank, Bool.not_false, if_true, List.filter_nil] at rolled
    cases rolled with
    | cons rolls others =>
      cases others
      exact ⟨_, rfl, commented, rolls⟩

end Engine

variable {resolver : Resolver} {formula suffix comment : Text} {composed : Composed}

theorem compose_eq (resolver : Resolver) (suffix comment formula : Text) :
    compose resolver .arithmetic { suffix, comment } formula =
      let parts := Comparator.extract (CriticalBlock.strip formula)
      let body := (resolver.resolve parts.1).formula.trim
      let comparator :=
        if parts.2.isEmpty then []
        else evaluateComparator .arithmetic (resolver.resolve parts.2).formula
      ⟨body, parts.2, comparator, Text.trimEnd (body ++ suffix ++ comparator ++ ' ' :: comment)⟩ :=
  rfl

theorem exists_clause_of_compose
    (composes : compose resolver .arithmetic { suffix, comment } formula = composed)
    (complete : composed.comparator = [] ∨ (Clause.parse? composed.comparator).isSome = true) :
    (composed.rawComparator = [] ∧ composed.comparator = []) ∨
      composed.rawComparator ≠ [] ∧ ∃ clause,
        Clause.parse? (resolver.resolve composed.rawComparator).formula = some clause ∧
          composed.comparator = (clause.evaluated .arithmetic).text := by
  subst composes
  simp only [compose_eq] at complete ⊢
  rcases Comparator.extract_shape (CriticalBlock.strip formula) with empty
    | ⟨c, rest, shape, isSign⟩
  · simp [empty]
  · have visible : isBlank c = false := by
      rcases Sign.eq_of_isSignChar isSign with rfl | rfl | rfl | rfl <;> decide
    have full : (c :: rest).isEmpty = false := rfl
    simp only [shape, full, Bool.false_eq_true, if_false] at complete ⊢
    refine .inr ⟨List.cons_ne_nil _ _, ?_⟩
    cases reads : Clause.parse? (resolver.resolve (c :: rest)).formula with
    | some clause => exact ⟨clause, rfl, evaluateComparator_eq reads⟩
    | none =>
      obtain ⟨more, resolved⟩ := resolver.resolve_cons isSign rest
      simp only [evaluateComparator, reads, Clause.parse?_trim, Option.isSome_none,
        Bool.false_eq_true, or_false] at complete
      rw [resolved] at complete
      exact absurd complete (Text.trim_cons_ne_nil visible more)

theorem not_mem_composed (plain : resolver.overrides = [])
    (composes : compose resolver .arithmetic { suffix, comment } formula = composed)
    {expr : DiceExpr}
    (reads : DiceExpr.parse (composed.body ++ suffix) = .ok expr) {m : Char}
    (lower : isPlain m = true) (foreign : isExprChar m = false)
    (unsigned : Sign.isSignChar m = false) (fresh : m ∉ formula) :
    m ∉ composed.body ++ suffix ++ composed.comparator := by
  have body := DiceExpr.not_mem_of_parse reads lower foreign
  have comparator : m ∉ composed.comparator := by
    subst composes
    simp only [compose_eq]
    split
    · exact List.not_mem_nil
    · have raw := Comparator.not_mem_extract unsigned (not_mem_strip fresh)
      have foreign := isAmountChar_of_foreign foreign
      exact not_mem_evaluateComparator unsigned foreign (resolver.not_mem_resolve plain foreign raw)
  exact fun member => (List.mem_append.mp member).elim body comparator

theorem extract_joined {body comparator : Text} (signless : ∀ c ∈ body, Sign.isSignChar c = false)
    (unparted : ';' ∉ comparator)
    (written : comparator = [] ∨ ∃ clause : Clause, clause.Sound ∧ comparator = clause.text) :
    ∃ entry, Comparator.extract (body ++ comparator).trim = (entry, comparator) ∧
      entry.trim = body.trim := by
  rcases written with rfl | ⟨clause, sound, rfl⟩
  · refine ⟨body.trim, ?_, Text.trim_trim body⟩
    rw [List.append_nil]
    exact Comparator.extract_signless fun c member => signless c (Text.mem_of_mem_trim member)
  · refine ⟨body.trimStart, ?_, Text.trim_trimStart body⟩
    rw [Text.trim_append_trimmed (Clause.trimmed_text sound)]
    exact Comparator.extract_append_text
      (fun c member => signless c (Text.mem_of_mem_trimStart member)) sound unparted

theorem Engine.AnswersText.of_composed {comparator : Option Comparator}
    (answered : AnswersText comparator composed.comparator)
    (composes : compose resolver .arithmetic { suffix, comment } formula = composed)
    (complete : composed.comparator = [] ∨ (Clause.parse? composed.comparator).isSome = true) :
    (composed.rawComparator = [] ∧ comparator = none) ∨
      composed.rawComparator ≠ [] ∧ ∃ answer clause, comparator = some answer ∧
        Clause.parse? (resolver.resolve composed.rawComparator).formula = some clause ∧
        Answers answer clause := by
  rcases exists_clause_of_compose composes complete with ⟨raw, empty⟩
    | ⟨raw, clause, resolved, evaluated⟩
  · rcases answered with ⟨_, none⟩ | ⟨full, _⟩
    · exact .inl ⟨raw, none⟩
    · exact absurd empty full
  · have sound := (Clause.sound_of_parse? resolved).evaluated .arithmetic
    rcases answered with ⟨empty, _⟩ | ⟨_, answer, read, compared, reads, answers⟩
    · exact absurd (evaluated.symm.trans empty) (Clause.trimmed_text sound).ne_nil
    · rw [evaluated] at reads
      obtain rfl := Option.some.inj ((Clause.parse?_text sound).symm.trans reads)
      exact .inr ⟨raw, answer, clause, compared, resolved, answers.of_evaluated⟩

/-- A composed single roll is rolled as one segment of the body, tested against the clause of the
comparator, with the comment of the roll. -/
theorem Engine.roll_composed (plain : resolver.overrides = [])
    (marks : ∀ m ∈ [';', '#', '[', ']', '&'], m ∉ formula)
    (shape : comment = [] ∨ ∃ text, comment = '#' :: text) (quiet : ';' ∉ comment)
    (composes : compose resolver .arithmetic { suffix, comment } formula = composed)
    {expr : DiceExpr} (reads : DiceExpr.parse (composed.body ++ suffix) = .ok expr)
    (complete : composed.comparator = [] ∨ (Clause.parse? composed.comparator).isSome = true)
    {limit : Option Nat} {faces rest : Faces} {outcome : Outcome}
    (done : (Engine.roll limit composed.roll).run faces = (.ok outcome, rest)) :
    ∃ segment, outcome.segments = [segment] ∧
      segment.entry = (composed.body ++ suffix).trim ∧
      outcome.comment = Text.unlessEmpty (Text.trim (comment.drop 1)) ∧
      ((composed.rawComparator = [] ∧ segment.comparator = none) ∨
        composed.rawComparator ≠ [] ∧ ∃ comparator clause, segment.comparator = some comparator ∧
          Clause.parse? (resolver.resolve composed.rawComparator).formula = some clause ∧
            Answers comparator clause) := by
  have foreign (m : Char) (mark : m ∈ [';', '#', '[', ']', '&']) :
      isPlain m = true ∧ isExprChar m = false ∧ Sign.isSignChar m = false := by
    simp only [List.mem_cons, List.not_mem_nil, or_false] at mark
    rcases mark with rfl | rfl | rfl | rfl | rfl <;> decide
  have fresh (m : Char) (mark : m ∈ [';', '#', '[', ']', '&']) :
      m ∉ composed.body ++ suffix ++ composed.comparator := by
    obtain ⟨lower, unused, unsigned⟩ := foreign m mark
    exact not_mem_composed plain composes reads lower unused unsigned (marks m mark)
  have written : composed.roll =
      Text.trimEnd (composed.body ++ suffix ++ composed.comparator ++ ' ' :: comment) := by
    subst composes
    simp only [compose_eq]
  obtain ⟨part, cut, same, among⟩ :=
    splitGlobalComment_composed (fresh ';' (by simp)) (fresh '#' (by simp)) shape quiet
  rw [← written] at cut
  obtain ⟨segment, alone, commented, rolls⟩ := exists_segment_of_roll cut done
  rw [splitComment_of_plain (among '[' (fresh '[' (by simp)) (by decide))
    (among '#' (fresh '#' (by simp)) (by decide)), same] at rolls
  have text : composed.comparator = [] ∨
      ∃ clause : Clause, clause.Sound ∧ composed.comparator = clause.text :=
    (exists_clause_of_compose composes complete).imp And.right
      fun ⟨_, clause, resolved, evaluated⟩ =>
        ⟨_, (Clause.sound_of_parse? resolved).evaluated .arithmetic, evaluated⟩
  obtain ⟨entry, extracted, trimmed⟩ := extract_joined (DiceExpr.signless_of_parse reads)
    (fun member => fresh ';' (by simp) (List.mem_append_right _ member)) text
  have entered := rolls.entry
  have answered := rolls.comparator
  rw [extracted] at entered answered
  exact ⟨segment, alone, entered.trans trimmed, commented, answered.of_composed composes complete⟩

def luckSheet : StatSheet := .ofList [(['L', 'u', 'c', 'k'], ⟨3, by decide, by decide⟩)]

def luckFormula : Text :=
  ['1', 'd', '2', '0', '+', '(', 'l', 'u', 'c', 'k', ')', '>', '=', '$', 'l', 'u', 'c', 'k', '-',
    '5', '<', '=', '1', 'd', '4']

def luckRoll : Composed :=
  compose { sheet := luckSheet } .arithmetic
    { suffix := ['-', '1'], comment := ['#', ' ', 'h', 'i', 't'] } luckFormula

theorem Engine.roll_composed_luck :
    luckRoll.roll = ['1', 'd', '2', '0', '+', '3', '-', '1', '>', '=', '-', '2', '<', '=', '1', 'd',
      '4', ' ', '#', ' ', 'h', 'i', 't'] ∧
      ∃ outcome rest, (Engine.roll none luckRoll.roll).run (.queue [12, 2]) = (.ok outcome, rest) ∧
        ∃ segment, outcome.segments = [segment] ∧
          segment.entry = Text.trim (luckRoll.body ++ ['-', '1']) ∧
          outcome.comment = Text.unlessEmpty (Text.trim [' ', 'h', 'i', 't']) ∧
          ((luckRoll.rawComparator = [] ∧ segment.comparator = none) ∨
            luckRoll.rawComparator ≠ [] ∧ ∃ comparator clause,
              segment.comparator = some comparator ∧ Clause.parse? (Resolver.resolve
                { sheet := luckSheet } luckRoll.rawComparator).formula = some clause ∧
                Answers comparator clause) := by
  have reads : DiceExpr.parse (luckRoll.body ++ ['-', '1']) = .ok (.binary .sub
      (.binary .add (.leaf ⟨1, 20, []⟩) (.number ⟨3, by decide, by decide⟩))
      (.number ⟨1, by decide, by decide⟩)) :=
    DiceExpr.parse_eq_ok_iff_parse?.mpr (by decide +kernel)
  have rolled : ((Engine.roll none luckRoll.roll).run (.queue [12, 2])).1.toOption.isSome =
      true := by decide +kernel
  refine ⟨by decide +kernel, ?_⟩
  rcases ran : (Engine.roll none luckRoll.roll).run (.queue [12, 2]) with ⟨_ | outcome, rest⟩
  · rw [ran] at rolled
    cases rolled
  · exact ⟨outcome, rest, rfl,
      Engine.roll_composed rfl (by simp [luckFormula]) (.inr ⟨_, rfl⟩) (by simp) rfl reads
      (.inr (by decide +kernel)) ran⟩

end Tabletop
