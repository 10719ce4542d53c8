import Tabletop.Proofs.Reading.LowerCase
import Tabletop.Proofs.Reading.Nesting
import Tabletop.Proofs.Resolving.References

/-! Dice notation among references. What parentheses hold in a text that reads as an expression is
taken for a name only when it is a dice term, and only a term with modifiers is looked up. -/
namespace Tabletop

def Grouped (name text : Text) : Prop :=
  ∃ before spaced after, text = before ++ '(' :: (spaced ++ ')' :: after) ∧ Spaced name spaced

namespace IsPhrase

variable {name : Text}

theorem trimmed (phrase : IsPhrase name) : name.Trimmed := by
  obtain ⟨c, cs, rfl, start⟩ := phrase.head
  have visible := visible_of_isNameChar (isNameChar_of_isNameStart start)
  exact ⟨List.cons_ne_nil c cs, Text.trimStart_cons visible, phrase.stop⟩

theorem lower_head (phrase : IsPhrase name) {x : Char}
    (first : (name.flatMap lowerChar).head? = some x) : x.isDigit = false := by
  refine Bool.eq_false_iff.mpr fun digit => ?_
  obtain ⟨c, cs, rfl, start⟩ := phrase.head
  obtain ⟨unnamed, _, caseless, _⟩ := digit_facts digit
  rw [List.flatMap_cons, List.head?_append_of_ne_nil _ (lowerChar_ne_nil c)] at first
  obtain rfl := eq_of_mem_lowerChar caseless (List.mem_of_head? first)
  rw [unnamed] at start
  cases start

end IsPhrase

theorem joiningMarks_facts : ∀ c ∈ joiningMarks,
    isCaseless c = true ∧ isBlank c = false ∧ (isNameChar c || c == ' ') = false :=
  Text.forall_of_all (by decide +kernel)

theorem Numeral.head_isDigit {text : Text} (numeral : Numeral text) :
    ∃ c, text.head? = some c ∧ c.isDigit = true := by
  obtain ⟨c, cs, rfl⟩ := List.exists_cons_of_ne_nil numeral.ne_nil
  exact ⟨c, rfl, numeral.isDigit c List.mem_cons_self⟩

theorem diceTerm_of_grouped {text name : Text} {e : DiceExpr} (reads : DiceExpr.parse text = .ok e)
    (grouped : Grouped name text) (phrase : IsPhrase name) :
    ∃ dice, DiceTerm (name.flatMap lowerChar) dice := by
  obtain ⟨before, spaced, after, split, around⟩ := grouped
  have sentence := DiceExpr.sentence_of_parse reads
  have bare : ∀ c ∈ joiningMarks, c ∉ spaced.flatMap lowerChar := fun c mark member => by
    obtain ⟨caseless, visible, foreign⟩ := joiningMarks_facts c mark
    exact around.not_mem visible (phrase.not_mem foreign)
      (Text.mem_of_mem_flatMap_lowerChar caseless member)
  have opening : lowerChar '(' = ['('] := by decide
  have closing : lowerChar ')' = [')'] := by decide
  have lower : text.lowercase =
      before.flatMap lowerChar ++ '(' ::
        (spaced.flatMap lowerChar ++ ')' :: after.flatMap lowerChar) := by
    rw [Text.lowercase_eq_flatMap sentence.exprChars, split]
    simp [List.flatMap_append, List.flatMap_cons, opening, closing]
  obtain ⟨inner, within⟩ :=
    sentence.nested.inner _ _ _ lower (bare '(' (by decide)) (bare ')' (by decide))
  obtain ⟨core, tight, kind⟩ := within.core bare
  have same : name.flatMap lowerChar = core := by
    have whole := around.lower.trim phrase.trimmed.lower
    have trimmed : core.Trimmed := by
      rcases kind with ⟨dice, term⟩ | numeral
      · exact term.trimmed
      · exact numeral.trimmed
    rw [← whole, tight.trim trimmed]
  rcases kind with ⟨dice, term⟩ | numeral
  · exact ⟨dice, same ▸ term⟩
  · obtain ⟨c, first, digit⟩ := numeral.head_isDigit
    rw [phrase.lower_head (same ▸ first)] at digit
    cases digit

section Terms

variable {name : Text} {dice : Dice}

theorem exists_sides (phrase : IsPhrase name) (term : DiceTerm (name.flatMap lowerChar) dice) :
    ∃ c cs sides modifiers, name = c :: cs ∧ (c = 'd' ∨ c = 'D') ∧
      cs.flatMap lowerChar = sides ++ modifiers ∧
      SidesTerm sides dice.sides ∧ ModifierTerms modifiers dice.modifiers := by
  generalize lower : name.flatMap lowerChar = core at term
  cases term with
  | @mk count sides modifiers n m ms counted sided terms =>
    cases counted with
    | present number =>
      obtain ⟨x, first, digit⟩ := number.1.head_isDigit
      rw [phrase.lower_head (by rw [lower, List.head?_append, first]; rfl)] at digit
      cases digit
    | absent =>
      obtain ⟨c, cs, rfl, letter, behind⟩ := Text.exists_letter_of_flatMap_lowerChar lower
      exact ⟨c, cs, sides, modifiers, rfl, letter, behind, sided, terms⟩

theorem diceTerm_cons {c k : Char} (letter : c = 'd' ∨ c = 'D') (other : k ≠ '%') (rest : Text) :
    diceTerm (c :: k :: rest) = if isDecimalDigit k then some ((), rest.dropWhile isDecimalDigit)
      else none := by
  have first : isDecimalDigit c = false := by rcases letter with rfl | rfl <;> decide
  simp [diceTerm, first, letter]

theorem isDiceName_of_bare (phrase : IsPhrase name) (term : DiceTerm (name.flatMap lowerChar) dice)
    (bare : dice.modifiers = []) : isDiceName name = true := by
  obtain ⟨c, cs, sides, modifiers, rfl, letter, lower, sided, terms⟩ := exists_sides phrase term
  rw [bare] at terms
  cases terms
  rw [List.append_nil] at lower
  generalize dice.sides = n at sided
  cases sided with
  | percent =>
    have member : '%' ∈ cs := Text.mem_of_mem_flatMap_lowerChar (by decide) (by rw [lower]; decide)
    exact absurd (List.mem_cons_of_mem c member) (phrase.not_mem (by decide))
  | number small =>
    have digits : ∀ k ∈ cs, k.isDigit = true := by
      intro k member
      obtain ⟨x, xs, image⟩ := List.exists_cons_of_ne_nil (lowerChar_ne_nil k)
      have inside : x ∈ lowerChar k := image ▸ List.mem_cons_self
      have digit := small.1.isDigit x (lower ▸ List.mem_flatMap.mpr ⟨k, member, inside⟩)
      rwa [eq_of_mem_lowerChar (digit_facts digit).2.2.1 inside]
    cases cs with
    | nil => exact absurd lower.symm small.1.ne_nil
    | cons k rest =>
      have decimal : ∀ d ∈ k :: rest, isDecimalDigit d = true :=
        fun d member => (digit_facts (digits d member)).2.2.2
      have other : k ≠ '%' := by
        rintro rfl
        cases digits '%' List.mem_cons_self
      have whole : rest.dropWhile isDecimalDigit = [] :=
        List.dropWhile_eq_nil_iff.mpr fun d member => decimal d (List.mem_cons_of_mem k member)
      simp [isDiceName, diceTerm_cons letter other, decimal k List.mem_cons_self, whole]

theorem modifierLetters_foreign : ∀ c ∈ modifierLetters, c.toNat < 128 ∧ isDecimalDigit c = false :=
  Text.forall_of_all (by decide +kernel)

theorem isDiceName_of_modified (phrase : IsPhrase name)
    (term : DiceTerm (name.flatMap lowerChar) dice)
    (modified : dice.modifiers ≠ []) : isDiceName name = false := by
  obtain ⟨c, cs, sides, modifiers, rfl, letter, lower, _, terms⟩ := exists_sides phrase term
  obtain ⟨x, known, first⟩ : ∃ x ∈ modifierLetters, modifiers.head? = some x := by
    generalize dice.modifiers = ms at terms modified
    cases terms with
    | nil => contradiction
    | cons term _ _ =>
      obtain ⟨x, known, first⟩ := term.head
      exact ⟨x, known, by simp [first]⟩
  obtain ⟨ascii, foreign⟩ := modifierLetters_foreign x known
  obtain ⟨k, member, image⟩ : ∃ k ∈ cs, x ∈ lowerChar k := by
    rw [← List.mem_flatMap, lower]
    exact List.mem_append_right sides (List.mem_of_head? first)
  have mixed : isDecimalDigit k = false := Bool.eq_false_iff.mpr fun digit => by
    rw [eq_of_mem_lowerChar_of_digit digit ascii image, foreign] at digit
    cases digit
  cases cs with
  | nil => cases member
  | cons d rest =>
    have other : d ≠ '%' := by
      rintro rfl
      exact phrase.not_mem (m := '%') (by decide) (by simp)
    cases digit : isDecimalDigit d with
    | false => simp [isDiceName, diceTerm_cons letter other, digit]
    | true =>
      have behind : k ∈ rest := by
        rcases List.mem_cons.mp member with rfl | behind
        · rw [digit] at mixed
          cases mixed
        · exact behind
      obtain ⟨y, ys, left⟩ : ∃ y ys, rest.dropWhile isDecimalDigit = y :: ys :=
        List.exists_cons_of_ne_nil fun none => by
          rw [List.dropWhile_eq_nil_iff.mp none k behind] at mixed
          cases mixed
      simp [isDiceName, diceTerm_cons letter other, digit, left]

theorem isIdentifier_of_term (phrase : IsPhrase name)
    (term : DiceTerm (name.flatMap lowerChar) dice) : IsIdentifier name where
  head := phrase.head
  chars := by
    intro c member
    have named := phrase.chars c member
    rw [Bool.or_eq_true, beq_iff_eq] at named
    rcases named with named | rfl
    · exact named
    · have small : ' ' ∈ name.flatMap lowerChar := List.mem_flatMap.mpr ⟨' ', member, by decide⟩
      exact absurd small (Text.not_mem_of_all term.termChars (by decide))

theorem parse_phrase_iff (phrase : IsPhrase name) :
    Dice.parse name = .ok dice ↔ DiceTerm (name.flatMap lowerChar) dice := by
  rw [Dice.parse_eq_ok_iff_term]
  constructor
  · rintro ⟨core, term, spaced⟩
    have lower :=
      Text.lowercase_eq_flatMap (spaced.exprChars (exprChars_of_termChars term.termChars))
    rw [lower] at spaced
    have same := spaced.trim term.trimmed
    rwa [← same, phrase.trimmed.lower.trim] at term
  · intro term
    have fresh : 'Σ' ∉ name := fun member => by
      have small : 'σ' ∈ name.flatMap lowerChar := List.mem_flatMap.mpr ⟨'Σ', member, by decide⟩
      exact absurd small (Text.not_mem_of_all term.termChars (by decide))
    exact ⟨_, term, by rw [Text.lowercase, Text.lowerAfter_eq_flatMap fresh]; exact .refl _⟩

end Terms

theorem grouped_of_reads {start rest name text : Text}
    (reads : parenthesisedName start = some (name, rest))
    (suffix : start <:+ text) : Grouped name text ∧ IsPhrase name := by
  obtain ⟨spaced, rfl, around, phrase⟩ := parenthesisedName_eq_some_iff.mp reads
  obtain ⟨before, rfl⟩ := suffix
  exact ⟨⟨before, spaced, rest, rfl, around⟩, phrase⟩

namespace Resolver

variable {resolver : Resolver} {text : Text}

theorem forGroup_of_unanswered {name : Text}
    (unanswered : isDiceName name = true ∨ resolver.find? name = none)
    (whole : Text) : resolver.forGroup name whole = (whole, none) := by
  rcases unanswered with dice | unknown
  · simp [forGroup, dice]
  · simp [forGroup, forDollar, unknown]

theorem forGroup_used_eq_none_iff {name whole : Text} :
    (resolver.forGroup name whole).2 = none ↔ isDiceName name = true ∨
      resolver.find? name = none := by
  unfold forGroup forDollar
  split
  · next dice => simp [dice]
  · next other => cases resolver.find? name <;> simp [other]

theorem unused_iff :
    (parenthesisedName.findings text).filterMap
      (fun found => (resolver.forGroup found.1 found.2).2) = [] ↔
      ∀ name, Grouped name text → IsPhrase name → isDiceName name = true ∨
        resolver.find? name = none := by
  rw [List.filterMap_eq_nil_iff]
  constructor
  · rintro unused name ⟨before, spaced, after, split, around⟩ phrase
    have reads : parenthesisedName ('(' :: (spaced ++ ')' :: after)) = some (name, after) :=
      parenthesisedName_of_spaced phrase around
    obtain ⟨part, found⟩ := parenthesisedName_opens.mem_scan reads ⟨before, split.symm⟩
    exact forGroup_used_eq_none_iff.mp (unused (name, part) (Reader.mem_findings_iff.mpr found))
  · rintro unanswered ⟨name, part⟩ member
    obtain ⟨start, rest, suffix, reads, _⟩ := Reader.exists_reads_of_mem_findings member
    obtain ⟨grouped, phrase⟩ := grouped_of_reads reads suffix
    exact forGroup_used_eq_none_iff.mpr (unanswered name grouped phrase)

theorem groups_of_unanswered
    (unanswered : ∀ name, Grouped name text → IsPhrase name →
      isDiceName name = true ∨ resolver.find? name = none) :
    parenthesisedName.substituted (fun name whole => (resolver.forGroup name whole).1) text =
      text := by
  refine Reader.substituted_of_unchanged parenthesisedName_opens.takesPart ?_
  intro start name rest suffix reads
  obtain ⟨grouped, phrase⟩ := grouped_of_reads reads suffix
  rw [forGroup_of_unanswered (unanswered name grouped phrase)]

theorem resolve_eq_self_iff (plain : resolver.overrides = []) (fresh : '$' ∉ text) :
    resolver.resolve text = ⟨text, []⟩ ↔ ∀ name, Grouped name text → IsPhrase name →
      isDiceName name = true ∨ resolver.find? name = none := by
  have undollared :=
    Reader.findings_of_not_mem (fun _ _ reads => mem_of_dollarReference reads) fresh
  rw [resolve_eq plain, afterDollars_of_not_mem fresh, undollared, Resolved.mk.injEq,
    List.filterMap_nil, List.nil_append, eraseDups_eq_nil_iff, unused_iff, and_iff_right_iff_imp]
  exact groups_of_unanswered

end Resolver

/-- Without overrides resolving leaves what reads as an expression as it is, unless a stat answers
to a dice term with modifiers that stands in parentheses. -/
theorem Resolver.resolve_of_parse {resolver : Resolver} (plain : resolver.overrides = [])
    {text : Text} {e : DiceExpr} (reads : DiceExpr.parse text = .ok e) :
    resolver.resolve text = ⟨text, []⟩ ↔ ∀ name dice, Grouped name text → IsIdentifier name →
      Dice.parse name = .ok dice → dice.modifiers ≠ [] → resolver.find? name = none := by
  have fresh : '$' ∉ text := DiceExpr.not_mem_of_parse reads (by decide) (by decide)
  rw [resolve_eq_self_iff plain fresh]
  constructor
  · intro spared name dice grouped identifier term modified
    have other := isDiceName_of_modified identifier.phrase
      ((parse_phrase_iff identifier.phrase).mp term) modified
    rcases spared name grouped identifier.phrase with same | unknown
    · rw [same] at other
      cases other
    · exact unknown
  · intro unknown name grouped phrase
    obtain ⟨dice, term⟩ := diceTerm_of_grouped reads grouped phrase
    by_cases bare : dice.modifiers = []
    · exact .inl (isDiceName_of_bare phrase term bare)
    · have identifier := isIdentifier_of_term phrase term
      exact .inr (unknown name dice grouped identifier ((parse_phrase_iff phrase).mpr term) bare)

def dexResolver : Resolver := { sheet := .ofList [(['D', 'e', 'x'], .ofSum 3 (by decide))] }

def explodingDie : Text := ['(', 'd', '6', 'x', ')']

theorem DiceExpr.parse_explodingDie :
    DiceExpr.parse explodingDie = .ok (.leaf ⟨1, 6, [.explode none true]⟩) :=
  DiceExpr.parse_eq_ok_iff_parse?.mpr (by decide +kernel)

theorem Resolver.resolve_of_parse_exploding :
    dexResolver.overrides = [] ∧
      DiceExpr.parse explodingDie = .ok (.leaf ⟨1, 6, [.explode none true]⟩) ∧
      (dexResolver.resolve explodingDie = ⟨explodingDie, []⟩ ↔
        ∀ name dice, Grouped name explodingDie →
        IsIdentifier name → Dice.parse name = .ok dice → dice.modifiers ≠ [] →
        dexResolver.find? name = none) :=
  ⟨rfl, DiceExpr.parse_explodingDie, Resolver.resolve_of_parse rfl DiceExpr.parse_explodingDie⟩

/-- A stat that is enough like the term takes its place. -/
theorem Resolver.exploding_replaced :
    dexResolver.overrides = [] ∧
      DiceExpr.parse explodingDie = .ok (.leaf ⟨1, 6, [.explode none true]⟩) ∧
      dexResolver.resolve explodingDie = ⟨['3'], [['D', 'e', 'x']]⟩ :=
  ⟨rfl, DiceExpr.parse_explodingDie, by decide +kernel⟩

end Tabletop
