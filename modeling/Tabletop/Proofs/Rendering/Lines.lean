import Tabletop.Proofs.Composing.Segments
import Tabletop.Proofs.Extracting.Line
import Tabletop.Proofs.Extracting.Ranges
import Tabletop.Proofs.Markers
import Tabletop.Proofs.Rendering.OneLine
import Tabletop.Outcome.Render

/-! The lines of a rendered outcome. Comments are collapsed before they are shown and take a line
for their text and one for their stats. The line of a segment quotes its entry, its comment, its
label and its threshold as they are, so it is one line if those are. -/
namespace Tabletop

theorem oneLine_of_mem_commentLines {language : Language} {comment line : Text}
    (member : line ∈ Outcome.commentLines language comment) : line.OneLine := by
  unfold Outcome.commentLines at member
  dsimp only at member
  rcases List.mem_append.mp member with text | stats
  · split at text
    · cases text
    · obtain rfl := List.mem_singleton.mp text
      simp [italic, Comment.plainText, Text.oneLine_collapsed]
  · split at stats
    · cases stats
    · obtain rfl := List.mem_singleton.mp stats
      have names :
          (Text.joined [',', ' '] ((StatMarker.reader.findings comment).map (·.1))).OneLine :=
        Text.oneLine_joined (by decide) fun part listed => by
          obtain ⟨⟨name, _⟩, found, rfl⟩ := List.mem_map.mp listed
          exact (StatMarker.of_mem_findings found).2.clean
      simp [Language.oneLine_say, names]

theorem Label.oneLine_text {label : Label} (named : ∀ name, label = .custom name → name.OneLine)
    (language : Language) : (label.text language).OneLine := by
  cases label with
  | custom name =>
    simp only [text]
    split
    · exact Language.oneLine_say language _ (by simp)
    · exact named name rfl
  | success | failure | criticalSuccess | criticalFailure =>
      exact Language.oneLine_say language _ (by simp)

theorem Label.oneLine_ofPassed (passed : Bool) (language : Language) :
    ((ofPassed passed).text language).OneLine :=
  oneLine_text (by cases passed <;> simp [ofPassed]) language

theorem ShownComparison.oneLine_of (sign : Sign) (passed : Bool) (value : Amount) :
    (of sign passed value).text.OneLine := by
  have shown : (sign.shown passed).OneLine := by cases sign <;> cases passed <;> decide
  simp [of, text, shown, Amount.oneLine_text]

structure Classification.Tidy (result : Classification) : Prop where
  shown : result.shown.text.OneLine
  opposition : ∀ opposition, result.opposition = some opposition →
    opposition.shown.text.OneLine ∧ ∀ language, (opposition.label.text language).OneLine

theorem Context.labelled_tidy (context : Context) (thresholds : CriticalThresholds)
    (rules : List CriticalRule)
    (segment : Segment) (passed : Bool) {plain : ShownComparison} (tidy : plain.text.OneLine) :
    (context.labelled thresholds rules segment passed plain).2.text.OneLine ∧
      ∀ name, (context.labelled thresholds rules segment passed plain).1 = .custom name →
        ∃ rule ∈ rules, rule.name = name := by
  unfold labelled
  dsimp only
  split
  · exact ⟨tidy, by simp⟩
  · split
    · exact ⟨tidy, by simp⟩
    · split
      · next rule value found =>
        refine ⟨ShownComparison.oneLine_of _ _ _, fun name same => ⟨rule, ?_, by simpa using same⟩⟩
        obtain ⟨other, listed, allowed⟩ := List.exists_of_findSome?_eq_some found
        split at allowed
        · simp only [Option.map_eq_some_iff, Prod.mk.injEq] at allowed
          obtain ⟨_, _, rfl, _⟩ := allowed
          exact listed
        · cases allowed
      · exact ⟨tidy, by cases passed <;> simp [Label.ofPassed]⟩

theorem Context.classify_tidy {context : Context} {thresholds : CriticalThresholds}
    {rules : List CriticalRule} {segment : Segment} {result : Classification}
    (classified : context.classify thresholds rules segment = some result) :
    result.Tidy ∧ ∀ name, result.label = .custom name → ∃ rule ∈ rules, rule.name = name := by
  simp only [classify, Option.bind_eq_bind, Option.bind_eq_some_iff,
    Option.some.injEq] at classified
  obtain ⟨comparator, _, value, _, rfl⟩ := classified
  obtain ⟨shown, named⟩ := context.labelled_tidy thresholds rules segment
    (comparator.primary.sign.holds segment.total.value value.value)
    (ShownComparison.oneLine_of comparator.primary.sign _ value)
  refine ⟨⟨shown, fun opposition opposed => ?_⟩, named⟩
  simp only [Option.bind_eq_some_iff, Threshold.oppose?, Option.bind_eq_bind,
    Option.some.injEq] at opposed
  obtain ⟨threshold, _, number, _, rfl⟩ := opposed
  exact ⟨ShownComparison.oneLine_of _ _ _, Label.oneLine_ofPassed _⟩

/-- The texts that the line of a segment quotes as they are. -/
def Segment.quoted (language : Language) (classification : Option Classification)
    (segment : Segment) : List Text :=
  segment.entry :: segment.comment.toList ++
    classification.toList.flatMap fun result => [result.label.text language, segment.thresholdText]

namespace Segment

variable {classification : Option Classification} {segment : Segment}

theorem oneLine_resultText_iff (language : Language) (breakdown : segment.breakdown.OneLine)
    (tidy : ∀ result, classification = some result → result.Tidy) :
    (segment.resultText language classification).OneLine ↔ segment.entry.OneLine ∧
      ∀ result ∈ classification, (result.label.text language).OneLine ∧
      segment.thresholdText.OneLine := by
  have entry : segment.breakdownText.OneLine ↔ segment.entry.OneLine := by
    simp [breakdownText, code, breakdown, Amount.oneLine_text]
  cases classification with
  | none => simp [resultText, entry]
  | some result =>
    obtain ⟨shown, opposition⟩ := tidy result rfl
    obtain ⟨label, comparison, passed, opposed⟩ := result
    cases opposed with
    | none =>
      simp only [resultText, bold, Text.oneLine_append_iff, Text.oneLine_cons_iff, entry, shown,
        ne_eq, Char.reduceEq, not_false_eq_true, true_and, Text.oneLine_nil, and_true,
        String.reduceToList, Option.mem_def, Option.some.injEq, forall_eq']
      tauto
    | some other =>
      obtain ⟨same, named⟩ := opposition other rfl
      simp only [resultText, bold, Text.oneLine_append_iff, Text.oneLine_cons_iff, entry, shown,
        same, named, ne_eq, Char.reduceEq, not_false_eq_true, true_and, Text.oneLine_nil, and_true,
        String.reduceToList, Option.mem_def, Option.some.injEq, forall_eq']
      tauto

theorem oneLine_render_iff (language : Language) (breakdown : segment.breakdown.OneLine)
    (tidy : ∀ result, classification = some result → result.Tidy) :
    (segment.render language classification).OneLine ↔
      ∀ text ∈ segment.quoted language classification, text.OneLine := by
  have result := oneLine_resultText_iff language breakdown tidy
  obtain ⟨entry, _, _, _, _, comment⟩ := segment
  cases comment with
  | none =>
    simp only [render, Text.oneLine_append_iff, result, quoted]
    cases classification <;> simp
  | some comment =>
    cases comment with
    | nil =>
      simp only [render, Text.oneLine_append_iff, result, quoted]
      cases classification <;> simp
    | cons c cs =>
      simp only [render, Text.oneLine_append_iff, result, quoted, italic]
      cases classification with
      | none => simp
      | some shown =>
        simp only [Option.mem_def, Option.some.injEq, forall_eq', List.isEmpty_cons,
          Bool.false_eq_true, ↓reduceIte, String.reduceToList, List.cons_append, List.nil_append,
          Text.oneLine_cons_iff, ne_eq, Char.reduceEq, not_false_eq_true, Text.oneLine_append_iff,
          Text.oneLine_nil, and_true, true_and, Option.toList_some, List.flatMap_cons,
          List.flatMap_nil, List.append_nil, List.mem_cons, List.not_mem_nil, or_false,
          forall_eq_or_imp, forall_eq]
        tauto

end Segment

namespace Engine

variable {limit : Option Nat} {faces rest : Faces} {segment : Segment}

theorem exists_fragment_of_segments {firstTotal : Option Amount} {texts : List Text}
    {rolled : List Segment}
    (done : (segments limit firstTotal texts).run faces = (.ok rolled, rest)) :
    ∀ segment ∈ rolled, ∃ text ∈ texts, ∃ earlier before after,
      (fragment limit earlier text).run before = (.ok segment, after) := by
  induction texts generalizing firstTotal rolled faces with
  | nil =>
    cases done
    exact fun segment member => absurd member List.not_mem_nil
  | cons text texts ih =>
    obtain ⟨first, mid, ran, done⟩ := bind_run_eq_ok done
    obtain ⟨others, last, later, done⟩ := bind_run_eq_ok done
    cases done
    refine List.forall_mem_cons.mpr
      ⟨⟨text, List.mem_cons_self, _, _, _, ran⟩, fun segment member => ?_⟩
    obtain ⟨other, listed, run⟩ := ih later segment member
    exact ⟨other, List.mem_cons_of_mem _ listed, run⟩

theorem oneLine_of_threshold {sign : Sign} {value : Text} {threshold : Threshold}
    (done : (Engine.threshold limit sign value).run faces = (.ok threshold, rest)) :
    (∀ dice, threshold.diceText = some dice → dice = value) ∧
      ∀ rolled, threshold.rolledText = some rolled → rolled.OneLine := by
  rcases threshold_run_eq_ok done with ⟨_, rfl⟩ | ⟨expr, rolled, amount, _, _, rfl⟩
  · simp [Threshold.unresolved]
  · split
    · simp [Threshold.ofAmount]
    · simp [Threshold.rolledFrom, eq_comm, RolledExpr.oneLine_text]

theorem oneLine_of_comparator {raw : Text} {comparator : Comparator}
    (done : (Engine.comparator limit raw).run faces = (.ok comparator, rest)) :
    (raw.OneLine → ∀ dice, comparator.primary.diceText = some dice → dice.OneLine) ∧
      ∀ rolled, comparator.primary.rolledText = some rolled → rolled.OneLine := by
  obtain ⟨clause, primary, mid, reads, first, opposition⟩ := comparator_run_eq_ok done
  obtain ⟨dice, rolled⟩ := oneLine_of_threshold first
  have same : comparator.primary = primary := by
    rcases opposition with ⟨_, rfl⟩ | ⟨_, _, _, rfl, _⟩ <;> rfl
  rw [same]
  exact ⟨fun clean text given => dice text given ▸ (Clause.not_mem_of_parse? reads clean).1, rolled⟩

theorem oneLine_of_rollBody {comment : Option Text} {body : Text}
    (done : (rollBody limit comment body).run faces = (.ok segment, rest)) :
    segment.breakdown.OneLine ∧ (body.OneLine → segment.thresholdText.OneLine) := by
  obtain ⟨_, rolled, _, _, _, compared, _, breakdown, _, _⟩ := rollBody_run_eq_ok done
  refine ⟨breakdown ▸ RolledExpr.oneLine_text limit rolled, fun clean => ?_⟩
  unfold Segment.thresholdText
  rcases comparator?_run_eq_ok compared with ⟨_, none⟩ | ⟨_, answer, same, compared⟩
  · rw [none]
    exact Text.oneLine_nil
  · obtain ⟨dice, rolled⟩ := oneLine_of_comparator compared
    have raw : (Comparator.extract body).2.OneLine := Comparator.not_mem_extract (by decide) clean
    rw [same]
    dsimp only
    split
    · next known shown => simp [dice raw _ known, rolled _ shown]
    · exact Text.oneLine_nil

theorem oneLine_splitComment {text : Text} (clean : text.OneLine) :
    (splitComment text).1.OneLine ∧ ∀ comment, (splitComment text).2 = some comment →
      comment.OneLine := by
  have noted (text : Text) (clean : text.OneLine) :
      ∀ comment, Text.unlessEmpty text.trim = some comment → comment.OneLine := by
    intro comment same
    unfold Text.unlessEmpty at same
    split at same
    · cases same
    · cases same
      exact clean.trim
  unfold splitComment
  cases first : bracket.first? text with
  | some found =>
    obtain ⟨start, split, reads⟩ := Reader.exists_of_first? first
    obtain ⟨rfl, _⟩ := bracket_eq_some_iff.mp reads
    rw [split] at clean
    simp only [Text.oneLine_append_iff, Text.oneLine_cons_iff] at clean
    obtain ⟨before, _, inner, _, after⟩ := clean
    exact ⟨(Text.oneLine_append_iff.mpr ⟨before, after⟩).trim, noted _ inner⟩
  | none =>
    cases cut : Text.cutAt? '#' text with
    | some found =>
      obtain ⟨rfl, _⟩ := Text.eq_of_cutAt? cut
      simp only [Text.oneLine_append_iff, Text.oneLine_cons_iff] at clean
      exact ⟨clean.1.trim, noted _ clean.2.2⟩
    | none => exact ⟨clean.trim, by simp⟩

theorem oneLine_bodyWith (firstTotal : Option Amount) {body : Text} (clean : body.OneLine) :
    (bodyWith firstTotal body).OneLine := by
  cases firstTotal with
  | none => exact clean
  | some total =>
    intro member
    obtain ⟨c, listed, inside⟩ := List.mem_flatMap.mp member
    split at inside
    · exact total.oneLine_operand inside
    · exact clean (List.mem_singleton.mp inside ▸ listed)

theorem oneLine_of_fragment {firstTotal : Option Amount} {text : Text}
    (done : (fragment limit firstTotal text).run faces = (.ok segment, rest)) :
    segment.breakdown.OneLine ∧
      (text.OneLine → segment.entry.OneLine ∧ segment.thresholdText.OneLine ∧
      ∀ comment, segment.comment = some comment → comment.OneLine) := by
  have ran :
      (rollBody limit (splitComment text).2 (bodyWith firstTotal (splitComment text).1)).run faces =
      (.ok segment, rest) := by
    cases firstTotal with
    | some total => exact done
    | none =>
      simp only [fragment] at done
      split at done
      · cases done
      · exact done
  have rolls := rolls_of_rollBody ran
  obtain ⟨breakdown, threshold⟩ := oneLine_of_rollBody ran
  refine ⟨breakdown, fun clean => ?_⟩
  obtain ⟨body, comment⟩ := oneLine_splitComment clean
  have filled := oneLine_bodyWith firstTotal body
  rw [rolls.entry, rolls.comment]
  exact ⟨Text.OneLine.trim (Comparator.not_mem_extract_body filled), threshold filled, comment⟩

theorem oneLine_of_mem_fragments {text part : Text} (clean : text.OneLine)
    (member : part ∈ fragments text) : part.OneLine :=
  clean.of_subset ((fragments_eq_iff.mp rfl).part_of_mem member).subset

theorem oneLine_of_mem_splitGlobalComment {text part : Text} (clean : text.OneLine)
    (member : part ∈ (splitGlobalComment text).1) : part.OneLine := by
  obtain ⟨parts, last, parted⟩ := exists_concat_fragments text
  have parts (part : Text) (listed : part ∈ parts ++ [last]) : part.OneLine :=
    oneLine_of_mem_fragments clean (parted ▸ listed)
  rw [splitGlobalComment_eq parted] at member
  rcases List.mem_append.mp member with earlier | cut
  · exact parts part (List.mem_append_left _ earlier)
  · obtain rfl := List.mem_singleton.mp cut
    exact (parts last (by simp)).of_subset (List.takeWhile_prefix _).subset

theorem oneLine_of_roll {text : Text} {outcome : Outcome}
    (done : (roll limit text).run faces = (.ok outcome, rest)) :
    ∀ segment ∈ outcome.segments, segment.breakdown.OneLine ∧
      (text.OneLine → segment.entry.OneLine ∧ segment.thresholdText.OneLine ∧
        ∀ comment, segment.comment = some comment → comment.OneLine) := by
  intro segment member
  rw [roll_run] at done
  split at done
  · next rolled left ran =>
    split at done
    · cases done
    · cases done
      obtain ⟨part, listed, _, _, _, rolls⟩ := exists_fragment_of_segments ran segment member
      obtain ⟨breakdown, quoted⟩ := oneLine_of_fragment rolls
      have kept := (List.mem_filter.mp listed).1
      exact ⟨breakdown, fun clean => quoted (oneLine_of_mem_splitGlobalComment clean.trim kept)⟩
  · cases done

end Engine

end Tabletop
