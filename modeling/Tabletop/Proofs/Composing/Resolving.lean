import Tabletop.Proofs.Composing.Clauses
import Tabletop.Proofs.Reading.Characters

/-! What composing brings into a text. Resolved references and evaluated thresholds are numbers, so
a mark that is not used in expressions is only there if the formula has it. -/
namespace Tabletop

variable {m : Char}

def isAmountChar (c : Char) : Bool := c.isDigit || ['-', '(', ')'].contains c

theorem isAmountChar_of_foreign (foreign : isExprChar m = false) : isAmountChar m = false := by
  refine Bool.eq_false_iff.mpr fun used => ?_
  simp only [isAmountChar, Bool.or_eq_true, List.contains_eq_mem, decide_eq_true_eq, List.mem_cons,
    List.not_mem_nil, or_false] at used
  rcases used with digit | rfl | rfl | rfl
  · rw [isExprChar_of_isDigit digit] at foreign
    contradiction
  all_goals contradiction

theorem Amount.not_mem_text (foreign : isAmountChar m = false) (n : Amount) : m ∉ n.text := by
  intro member
  rcases isDigit_of_mem_text member with rfl | digit
  · contradiction
  · simp [isAmountChar, digit] at foreign

theorem Amount.not_mem_operand (foreign : isAmountChar m = false) (n : Amount) : m ∉ n.operand := by
  have opens : m ≠ '(' := by
    rintro rfl
    contradiction
  have closes : m ≠ ')' := by
    rintro rfl
    contradiction
  unfold operand
  split <;> simp [n.not_mem_text foreign, opens, closes]

theorem DiceExpr.signless_of_parse {text : Text} {e : DiceExpr}
    (reads : DiceExpr.parse text = .ok e) : ∀ c ∈ text, Sign.isSignChar c = false := by
  intro c member
  refine Bool.eq_false_iff.mpr fun sign => ?_
  rcases Sign.eq_of_isSignChar sign with rfl | rfl | rfl | rfl <;>
    exact DiceExpr.not_mem_of_parse reads (by decide) (by decide) member

namespace Resolver

variable {resolver : Resolver}

theorem not_mem_forDollar (foreign : isAmountChar m = false) {name whole : Text}
    (fresh : m ∉ whole) : m ∉ (resolver.forDollar name whole).1 := by
  unfold forDollar
  split
  · exact Amount.not_mem_operand foreign _
  · exact fresh

theorem not_mem_forParen (plain : resolver.overrides = []) (foreign : isAmountChar m = false)
    {sign : Option Text} {name whole : Text} (signed : m ∉ sign.getD []) (fresh : m ∉ whole) :
    m ∉ (resolver.forParen sign name whole).1 := by
  simp only [forParen, plain, List.lookup_nil]
  split
  · exact fresh
  · split
    · exact fun member => (List.mem_append.mp member).elim signed (Amount.not_mem_operand foreign _)
    · exact fresh

end Resolver

theorem not_mem_looseSign {start sign rest : Text} (fresh : m ∉ start)
    (reads : looseSign start = some (sign, rest)) : m ∉ sign := by
  unfold looseSign at reads
  split at reads
  · split at reads
    · cases reads
      exact Reader.not_mem_taken fresh _
    · cases reads
  · cases reads

theorem not_mem_sign_of_parenReference {start rest name : Text} {sign : Option Text}
    (fresh : m ∉ start) (reads : parenReference start = some ((sign, name), rest)) :
    m ∉ sign.getD [] := by
  unfold parenReference Reader.optional at reads
  cases signed : looseSign start with
  | none =>
    simp only [signed, Reader.map, Option.map_eq_some_iff, Prod.mk.injEq] at reads
    obtain ⟨_, _, ⟨rfl, _⟩, _⟩ := reads
    exact List.not_mem_nil
  | some reading =>
    simp only [signed, Reader.map, Option.map_eq_some_iff, Prod.mk.injEq] at reads
    obtain ⟨_, _, ⟨rfl, _⟩, _⟩ := reads
    exact not_mem_looseSign fresh signed

theorem Resolver.not_mem_resolve {resolver : Resolver} (plain : resolver.overrides = [])
    (foreign : isAmountChar m = false) {text : Text} (fresh : m ∉ text) :
    m ∉ (resolver.resolve text).formula := by
  refine Reader.not_mem_substituted (Reader.not_mem_substituted fresh ?_) ?_
  · exact fun start name rest fresh _ => not_mem_forDollar foreign (Reader.not_mem_taken fresh rest)
  · rintro start ⟨sign, name⟩ rest fresh reads
    exact not_mem_forParen plain foreign (not_mem_sign_of_parenReference fresh reads)
      (Reader.not_mem_taken fresh rest)

theorem not_mem_fillPlaceholder {total text : Text} (foreign : m ∉ total) (fresh : m ∉ text) :
    m ∉ fillPlaceholder total text := by
  refine Reader.not_mem_substituted fresh fun start after rest fresh reads => ?_
  have behind : m ∉ after.toList := by
    unfold placeholder at reads
    split at reads
    · cases reads
      exact List.not_mem_nil
    · split at reads
      · cases reads
      · cases reads
        rw [Option.toList_some, List.mem_singleton]
        rintro rfl
        exact fresh (by simp)
    · cases reads
  exact fun member => (List.mem_append.mp member).elim foreign behind

theorem not_mem_resolvePart {resolver : Resolver} {statTotal : Option Text}
    (plain : resolver.overrides = []) (foreign : isAmountChar m = false)
    (total : ∀ text, statTotal = some text → m ∉ text) {text : Text} (fresh : m ∉ text) :
    m ∉ resolvePart resolver statTotal text := by
  cases statTotal with
  | none => exact resolver.not_mem_resolve plain foreign fresh
  | some filling =>
    exact resolver.not_mem_resolve plain foreign
      (not_mem_fillPlaceholder (total filling rfl) fresh)

theorem dollarReference_of_ne {c : Char} (other : c ≠ '$') (cs : Text) :
    dollarReference (c :: cs) = none := by
  unfold dollarReference
  split
  · next same => exact absurd (List.cons.inj same).1 other
  · rfl

theorem parenReference_of_ne {c : Char} (visible : isBlank c = false) (unsigned : c ≠ '+' ∧ c ≠ '-')
    (unopened : c ≠ '(') (cs : Text) : parenReference (c :: cs) = none := by
  have loose : looseSign (c :: cs) = none := by
    simp [looseSign, Text.trimStart_cons visible, unsigned]
  have named : parenthesisedName (c :: cs) = none := by
    simp [parenthesisedName, Reader.char, unopened]
  simp [parenReference, Reader.optional, loose, Reader.map, named]

theorem Resolver.resolve_cons {resolver : Resolver} {c : Char} (sign : Sign.isSignChar c = true)
    (cs : Text) : ∃ rest, (resolver.resolve (c :: cs)).formula = c :: rest := by
  have facts : c ≠ '$' ∧ isBlank c = false ∧ (c ≠ '+' ∧ c ≠ '-') ∧ c ≠ '(' := by
    rcases Sign.eq_of_isSignChar sign with rfl | rfl | rfl | rfl <;> decide
  obtain ⟨dollar, visible, unsigned, unopened⟩ := facts
  unfold resolve
  dsimp only
  rw [Reader.substituted_cons (dollarReference_of_ne dollar cs),
    Reader.substituted_cons (parenReference_of_ne visible unsigned unopened _)]
  exact ⟨_, rfl⟩

theorem not_mem_strip {text : Text} (fresh : m ∉ text) : m ∉ CriticalBlock.strip text :=
  Reader.not_mem_substituted fresh fun _ _ _ _ _ => List.not_mem_nil

theorem not_mem_symbol (foreign : Sign.isSignChar m = false) (sign : Sign) : m ∉ sign.symbol :=
  fun member => by
  rw [Sign.isSignChar_of_mem_symbol member] at foreign
  contradiction

theorem not_mem_trimStart {text : Text} (fresh : m ∉ text) : m ∉ text.trimStart := fun member =>
  fresh (Text.mem_of_mem_trimStart member)

theorem not_mem_trim {text : Text} (fresh : m ∉ text) : m ∉ text.trim := fun member =>
  fresh (Text.mem_of_mem_trim member)

theorem Comparator.not_mem_extract (foreign : Sign.isSignChar m = false) {formula : Text}
    (fresh : m ∉ formula) : m ∉ (extract formula).2 := by
  cases first : inFormula.first? formula with
  | none =>
    rw [extract_of_none first]
    exact List.not_mem_nil
  | some found =>
    rw [extract_of_first? first]
    intro member
    rcases List.mem_append.mp member with member | member
    · exact not_mem_symbol foreign _ member
    · exact fresh (by simp [(eq_of_first? first).1, Text.mem_of_mem_trim member])

theorem Comparator.not_mem_extract_body {formula : Text} (fresh : m ∉ formula) :
    m ∉ (extract formula).1 := by
  cases first : inFormula.first? formula with
  | none =>
    rw [extract_of_none first]
    exact fresh
  | some found =>
    rw [extract_of_first? first]
    rw [(eq_of_first? first).1] at fresh
    intro member
    exact fresh (by rcases List.mem_append.mp member with member | member <;> simp [member])

theorem Comparator.not_mem_overridden {override : Option Text}
    (unused : ∀ text, override = some text → m ∉ text)
    {formula : Text} (fresh : m ∉ formula) : m ∉ overridden override formula := by
  have new : m ∉ (override.getD []).trim := by
    cases override with
    | none => exact List.not_mem_nil
    | some text => exact not_mem_trim (unused text rfl)
  unfold overridden
  dsimp only
  split
  · exact fresh
  · cases first : inFormula.first? formula with
    | none =>
      dsimp only
      split <;> simp [fresh, new]
    | some found =>
      simp only [(eq_of_first? first).1, List.mem_append, not_or] at fresh
      dsimp only
      split <;> simp [fresh, new]

theorem Comparator.extract_shape (formula : Text) :
    (extract formula).2 = [] ∨ ∃ c rest, (extract formula).2 = c :: rest ∧
      Sign.isSignChar c = true := by
  cases first : inFormula.first? formula with
  | none =>
    rw [extract_of_none first]
    exact .inl rfl
  | some found =>
    obtain ⟨c, rest, symbol, isSign, _⟩ := found.value.1.symbol_head
    rw [extract_of_first? first, symbol]
    exact .inr ⟨c, rest ++ found.value.2.trim, rfl, isSign⟩

theorem not_mem_evaluateThreshold (foreign : isAmountChar m = false) {value : Text}
    (fresh : m ∉ value) : m ∉ evaluateThreshold .arithmetic value := by
  unfold evaluateThreshold
  split
  · exact fresh
  · split
    · exact Amount.not_mem_text foreign _
    · exact fresh

theorem Clause.not_mem_text (foreign : Sign.isSignChar m = false) {clause : Clause}
    (fresh : m ∉ clause.value) (opposed : ∀ sign value, clause.opposition = some (sign, value) →
      m ∉ value) : m ∉ clause.text := by
  unfold text
  cases same : clause.opposition with
  | none => simp [not_mem_symbol foreign, fresh]
  | some other => simp [not_mem_symbol foreign, fresh, opposed _ _ same]

theorem Clause.not_mem_evaluated (unsigned : Sign.isSignChar m = false)
    (foreign : isAmountChar m = false) {text : Text}
    {clause : Clause} (reads : parse? text = some clause) (fresh : m ∉ text) :
    m ∉ (clause.evaluated .arithmetic).text := by
  obtain ⟨value, opposed⟩ := not_mem_of_parse? reads fresh
  refine not_mem_text unsigned (not_mem_evaluateThreshold foreign value) fun sign other same => ?_
  simp only [evaluated, Option.map_eq_some_iff] at same
  obtain ⟨⟨_, written⟩, known, rfl, rfl⟩ := same
  exact not_mem_evaluateThreshold foreign (opposed _ _ known)

theorem not_mem_evaluateComparator (unsigned : Sign.isSignChar m = false)
    (foreign : isAmountChar m = false) {comparator : Text} (fresh : m ∉ comparator) :
    m ∉ evaluateComparator .arithmetic comparator := by
  cases reads : Clause.parse? comparator with
  | none =>
    simp only [evaluateComparator, reads]
    exact not_mem_trim fresh
  | some clause =>
    rw [evaluateComparator_eq reads]
    exact Clause.not_mem_evaluated unsigned foreign reads fresh

end Tabletop
