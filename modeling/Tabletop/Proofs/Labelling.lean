import Tabletop.Outcome.Classify

/-! What decides a label. The critical failure comes first, then the critical success, then the
first rule that fires; a rule that does not fire might as well not be there, nor might the rules
behind one that does. Passing and the opposition are told by the comparator alone. -/
namespace Tabletop

def Segment.Meets (segment : Segment) (check : Option CriticalCheck) : Prop :=
  ∃ given, check = some given ∧ given.holds segment.natural segment.total = true

namespace Context

variable {context : Context} {segment : Segment} {rule : CriticalRule} {number : Amount}
  {rules before after : List CriticalRule}

structure Fires (context : Context) (segment : Segment) (rule : CriticalRule) (number : Amount) :
    Prop where
  applies : context.skill = true → rule.affectsSkill = true
  valued : context.evaluate rule.value = some number
  met : segment.Meets (some ⟨rule.sign, number, rule.onNaturalDie⟩)

/-- The reasons for which a rule is passed over. -/
inductive Idle (context : Context) (segment : Segment) (rule : CriticalRule) : Prop where
  | skipped : context.skill = true → rule.affectsSkill = false → Idle context segment rule
  | unvalued : context.evaluate rule.value = none → Idle context segment rule
  | unmet {number : Amount} : context.evaluate rule.value = some number →
      ¬ segment.Meets (some ⟨rule.sign, number, rule.onNaturalDie⟩) → Idle context segment rule

theorem allows_eq_true_iff :
    context.allows rule = true ↔ (context.skill = true → rule.affectsSkill = true) := by
  cases skill : context.skill <;> simp [allows, skill]

theorem ruleValue?_eq_some_iff : context.ruleValue? segment rule = some number ↔
    context.evaluate rule.value = some number ∧
      segment.Meets (some ⟨rule.sign, number, rule.onNaturalDie⟩) := by
  cases valued : context.evaluate rule.value with
  | none => simp [ruleValue?, valued]
  | some found =>
    simp only [ruleValue?, valued, Option.bind_eq_bind, Option.bind_some,
      Option.ite_none_right_eq_some, Option.some.injEq, Segment.Meets, exists_eq_left']
    constructor
    · rintro ⟨met, rfl⟩
      exact ⟨rfl, met⟩
    · rintro ⟨rfl, met⟩
      exact ⟨met, rfl⟩

def fired? (context : Context) (segment : Segment) (rule : CriticalRule) :
    Option (CriticalRule × Amount) :=
  if context.allows rule then (context.ruleValue? segment rule).map (rule, ·) else none

theorem fired?_eq_some_iff {found : CriticalRule × Amount} :
    context.fired? segment rule = some found ↔
      found.1 = rule ∧ context.Fires segment rule found.2 := by
  simp only [fired?, Option.ite_none_right_eq_some, allows_eq_true_iff, Option.map_eq_some_iff,
    ruleValue?_eq_some_iff]
  constructor
  · rintro ⟨applies, number, ⟨valued, met⟩, rfl⟩
    exact ⟨rfl, applies, valued, met⟩
  · rintro ⟨rfl, applies, valued, met⟩
    exact ⟨applies, found.2, ⟨valued, met⟩, rfl⟩

theorem Fires.not_idle (fires : context.Fires segment rule number) :
    ¬ context.Idle segment rule := by
  rintro (⟨skill, spared⟩ | none | ⟨valued, unmet⟩)
  · rw [fires.applies skill] at spared
    cases spared
  · rw [fires.valued] at none
    cases none
  · obtain rfl := Option.some.inj (fires.valued.symm.trans valued)
    exact unmet fires.met

theorem fired?_eq_none_iff : context.fired? segment rule = none ↔ context.Idle segment rule := by
  constructor
  · intro unfired
    by_cases applies : context.skill = true → rule.affectsSkill = true
    · cases valued : context.evaluate rule.value with
      | none => exact .unvalued valued
      | some number =>
        refine .unmet valued fun met => ?_
        have fires : context.fired? segment rule = some (rule, number) :=
          fired?_eq_some_iff.mpr ⟨rfl, applies, valued, met⟩
        rw [unfired] at fires
        cases fires
    · obtain ⟨skill, spared⟩ := Classical.not_imp.mp applies
      exact .skipped skill (Bool.eq_false_iff.mpr spared)
  · intro idle
    refine Option.eq_none_iff_forall_ne_some.mpr fun found fires => ?_
    exact (fired?_eq_some_iff.mp fires).2.not_idle idle

theorem firstRule?_eq (rules : List CriticalRule) :
    context.firstRule? segment rules = rules.findSome? (context.fired? segment) := rfl

theorem firstRule?_eq_some_iff : context.firstRule? segment rules = some (rule, number) ↔
    ∃ before after, rules = before ++ rule :: after ∧
      (∀ other ∈ before, context.Idle segment other) ∧ context.Fires segment rule number := by
  simp only [firstRule?_eq, List.findSome?_eq_some_iff, fired?_eq_some_iff, fired?_eq_none_iff]
  constructor
  · rintro ⟨before, _, after, split, ⟨rfl, fires⟩, idle⟩
    exact ⟨before, after, split, idle, fires⟩
  · rintro ⟨before, after, split, idle, fires⟩
    exact ⟨before, rule, after, split, ⟨rfl, fires⟩, idle⟩

theorem firstRule?_eq_none_iff :
    context.firstRule? segment rules = none ↔ ∀ rule ∈ rules, context.Idle segment rule := by
  simp only [firstRule?_eq, List.findSome?_eq_none_iff, fired?_eq_none_iff]

theorem firstRule?_insert (idle : context.Idle segment rule) :
    context.firstRule? segment (before ++ rule :: after) =
      context.firstRule? segment (before ++ after) := by
  simp only [firstRule?_eq, List.findSome?_append, List.findSome?_cons, fired?_eq_none_iff.mpr idle]

theorem firstRule?_behind (fires : context.Fires segment rule number) (more : List CriticalRule) :
    context.firstRule? segment (before ++ rule :: more) =
      context.firstRule? segment (before ++ rule :: after) := by
  have fired : context.fired? segment rule = some (rule, number) :=
    fired?_eq_some_iff.mpr ⟨rfl, fires⟩
  simp only [firstRule?_eq, List.findSome?_append, List.findSome?_cons, fired]

/-- The label of a segment and the comparison that is shown with it: that of the comparator, unless
a rule gives the label. -/
inductive Labels (context : Context) (thresholds : CriticalThresholds) (rules : List CriticalRule)
    (segment : Segment) (passed : Bool) (plain : ShownComparison) :
    Label → ShownComparison → Prop where
  | criticalFailure : segment.Meets thresholds.failure →
      Labels context thresholds rules segment passed plain .criticalFailure plain
  | criticalSuccess : ¬ segment.Meets thresholds.failure → segment.Meets thresholds.success →
      Labels context thresholds rules segment passed plain .criticalSuccess plain
  | custom {before after : List CriticalRule} {rule : CriticalRule} {number : Amount} :
      ¬ segment.Meets thresholds.failure → ¬ segment.Meets thresholds.success →
        rules = before ++ rule :: after →
        (∀ other ∈ before, context.Idle segment other) → context.Fires segment rule number →
          Labels context thresholds rules segment passed plain (.custom rule.name)
            (.of rule.sign true number)
  | plain : ¬ segment.Meets thresholds.failure → ¬ segment.Meets thresholds.success →
      (∀ rule ∈ rules, context.Idle segment rule) →
        Labels context thresholds rules segment passed plain (.ofPassed passed) plain

theorem any_iff_meets {check : Option CriticalCheck} :
    (check.any fun check => check.holds segment.natural segment.total) = true ↔
      segment.Meets check := by
  cases check <;> simp [Segment.Meets]

theorem labelled_labels (context : Context) (thresholds : CriticalThresholds)
    (rules : List CriticalRule) (segment : Segment) (passed : Bool) (plain : ShownComparison) :
    context.Labels thresholds rules segment passed plain
      (context.labelled thresholds rules segment passed plain).1
      (context.labelled thresholds rules segment passed plain).2 := by
  simp only [labelled]
  split
  · next fails => exact .criticalFailure (any_iff_meets.mp fails)
  · next spared =>
    have spared := mt any_iff_meets.mpr spared
    split
    · next succeeds => exact .criticalSuccess spared (any_iff_meets.mp succeeds)
    · next unmet =>
      have unmet := mt any_iff_meets.mpr unmet
      cases first : context.firstRule? segment rules with
      | some found =>
        obtain ⟨before, after, split, idle, fires⟩ := firstRule?_eq_some_iff.mp first
        exact .custom spared unmet split idle fires
      | none => exact .plain spared unmet (firstRule?_eq_none_iff.mp first)

variable (context) in
theorem classify_of_numeric {comparator : Comparator} {value : Amount}
    (compared : segment.comparator = some comparator)
    (numeric : comparator.primary.value = some value) (thresholds : CriticalThresholds)
    (rules : List CriticalRule) :
    let sign := comparator.primary.sign
    let passed := sign.holds segment.total.value value.value
    let labelled := context.labelled thresholds rules segment passed (.of sign passed value)
    context.classify thresholds rules segment = some ⟨labelled.1, labelled.2, passed,
      comparator.opposed.head?.bind fun opposing => opposing.oppose? segment.total⟩ := by
  simp only [classify, compared, numeric, Option.bind_eq_bind, Option.bind_some]

theorem classify_congr {others : List CriticalRule}
    (same : context.firstRule? segment rules = context.firstRule? segment others)
    (thresholds : CriticalThresholds) :
    context.classify thresholds rules segment = context.classify thresholds others segment := by
  simp only [classify, labelled, same]

/-- What a classification says, and what it does not depend on. -/
structure Decided (context : Context) (thresholds : CriticalThresholds) (rules : List CriticalRule)
    (segment : Segment) (sign : Sign) (value : Amount) (result : Classification) : Prop where
  passed : result.passed = sign.holds segment.total.value value.value
  label : context.Labels thresholds rules segment result.passed
    (.of sign result.passed value) result.label result.shown
  idle : ∀ before rule after, rules = before ++ after → context.Idle segment rule →
    context.classify thresholds (before ++ rule :: after) segment = some result
  behind : ∀ before rule number after more, rules = before ++ rule :: after →
    context.Fires segment rule number →
    context.classify thresholds (before ++ rule :: more) segment = some result
  apart : ∀ otherThresholds otherRules, ∃ other,
    context.classify otherThresholds otherRules segment = some other ∧
    other.passed = result.passed ∧ other.opposition = result.opposition

/-- A segment with a numeric comparator gets the first label that applies, and nothing else
matters. -/
theorem classify_first {comparator : Comparator} {value : Amount}
    (compared : segment.comparator = some comparator)
    (numeric : comparator.primary.value = some value) (thresholds : CriticalThresholds)
    (rules : List CriticalRule) :
    ∃ result, context.classify thresholds rules segment = some result ∧
      context.Decided thresholds rules segment comparator.primary.sign value result := by
  have classified := context.classify_of_numeric compared numeric
  refine ⟨_, classified thresholds rules, rfl, labelled_labels .., ?_, ?_, ?_⟩
  · rintro before rule after rfl idle
    rw [classify_congr (firstRule?_insert idle)]
    exact classified thresholds _
  · rintro before rule number after more rfl fires
    rw [classify_congr (firstRule?_behind fires more)]
    exact classified thresholds _
  · exact fun otherThresholds otherRules => ⟨_, classified otherThresholds otherRules, rfl, rfl⟩

theorem classify_first_nimble :
    let context : Context :=
      { sheet := .ofList [("dexterity".toList, ⟨12, by decide, by decide⟩)], skill := true }
    let rules : List CriticalRule := [
      { name := "Great".toList, sign := .atLeast, value := "10".toList, affectsSkill := false },
      { name := "Lucky".toList, sign := .atLeast, value := "$luck".toList },
      { name := "Grand".toList, sign := .atLeast, value := "$dex+3".toList },
      { name := "Nimble".toList, sign := .greater, value := "$dex".toList, onNaturalDie := true },
      { name := "Good".toList, sign := .atLeast, value := "10".toList }]
    let thresholds : CriticalThresholds :=
      .natural (some ⟨20, by decide, by decide⟩) (some ⟨1, by decide, by decide⟩)
    let value : Amount := ⟨5, by decide, by decide⟩
    let comparator : Comparator := { primary := .ofAmount .atLeast value }
    let segment : Segment :=
      ⟨"1d20".toList, "1d20[13]".toList, ⟨13, by decide, by decide⟩, [13], some comparator, none⟩
    segment.comparator = some comparator ∧ comparator.primary.value = some value ∧
      (context.classify thresholds rules segment).map Classification.label =
        some (.custom "Nimble".toList) ∧
      ∃ result, context.classify thresholds rules segment = some result ∧
        context.Decided thresholds rules segment .atLeast value result := by
  intro context rules thresholds value comparator segment
  have compared : segment.comparator = some comparator := rfl
  exact ⟨compared, rfl, by decide +kernel, classify_first compared rfl thresholds rules⟩

end Context
end Tabletop
