import Tabletop.Proofs.Reading.Expression
import Tabletop.Proofs.Reading.Plain

/-! The characters of what reads as an expression. Signs, marks of comments and chains, brackets,
braces and references are none of them, in any spelling. -/
namespace Tabletop

def isExprChar (c : Char) : Bool :=
  isBlank c || c.isAlphanum || ['+', '-', '*', '/', '\\', '(', ')', '%'].contains c

theorem isExprChar_of_isDigit {c : Char} (digit : c.isDigit = true) : isExprChar c = true := by
  simp [isExprChar, Char.isAlphanum, digit]

def isTermChar (c : Char) : Bool := c.isAlphanum || c == '%'

theorem isTermChar_of_isDigit {c : Char} (digit : c.isDigit = true) : isTermChar c = true := by
  simp [isTermChar, Char.isAlphanum, digit]

theorem exprChars_of_termChars {text : Text} (inside : text.all isTermChar = true) :
    text.all isExprChar = true := by
  refine List.all_eq_true.mpr fun c member => ?_
  have used := List.all_eq_true.mp inside c member
  simp only [isTermChar, Bool.or_eq_true, beq_iff_eq] at used
  rcases used with letter | rfl
  · simp [isExprChar, letter]
  · decide

theorem Numeral.termChars {text : Text} (numeral : Numeral text) : text.all isTermChar = true :=
  List.all_eq_true.mpr fun c member => isTermChar_of_isDigit (numeral.isDigit c member)

theorem OptionalNumber.termChars {text : Text} {n : Option UInt8} (valid : OptionalNumber text n) :
    text.all isTermChar = true :=
  List.all_eq_true.mpr fun c member => isTermChar_of_isDigit (valid.isDigit c member)

theorem SidesTerm.termChars {text : Text} {n : UInt8} (term : SidesTerm text n) :
    text.all isTermChar = true := by
  cases term with
  | number small => exact small.1.termChars
  | percent => decide

theorem ModifierTerm.termChars {text : Text} {m : Modifier} (term : ModifierTerm text m) :
    text.all isTermChar = true := by
  obtain ⟨word, known, number, rfl, digits⟩ := term.word_number
  have letters : ∀ word ∈ modifierWords, word.all isTermChar = true := by decide
  rw [List.all_append, letters word known, Bool.true_and]
  exact List.all_eq_true.mpr fun c member => isTermChar_of_isDigit (digits c member)

theorem ModifierTerms.termChars {text : Text} {ms : List Modifier} (terms : ModifierTerms text ms) :
    text.all isTermChar = true := by
  induction terms with
  | nil => rfl
  | cons term _ _ ih => rw [List.all_append, term.termChars, ih, Bool.and_self]

theorem DiceTerm.termChars {text : Text} {d : Dice} (term : DiceTerm text d) :
    text.all isTermChar = true := by
  obtain ⟨count, sides, modifiers⟩ := term
  simp only [List.all_append, List.all_cons, count.termChars, sides.termChars, modifiers.termChars]
  decide

theorem Spaced.exprChars {core text : Text} (spaced : Spaced core text)
    (inner : core.all isExprChar = true) : text.all isExprChar = true := by
  obtain ⟨before, after, blank, blank', rfl⟩ := spaced
  have blanks (text : Text) (blank : text.allBlank = true) : text.all isExprChar = true :=
    List.all_eq_true.mpr fun c member => by simp [isExprChar, List.all_eq_true.mp blank c member]
  simp only [List.all_append, blanks _ blank, blanks _ blank', inner, Bool.and_self]

theorem Op.exprChar (op : Op) : [op.symbol].all isExprChar = true := by cases op <;> decide

theorem Sentence.exprChars {level : Level} {text : Text} {e : DiceExpr}
    (sentence : Sentence level text e) : text.all isExprChar = true := by
  induction sentence with
  | ofProduct _ ih | ofUnary _ ih | ofAtom _ ih => exact ih
  | sum _ _ mid _ left right | product _ _ mid _ left right =>
    rw [List.all_append, List.all_append, left, mid.exprChars (Op.exprChar _), right]
    rfl
  | minus sign _ ih | plus sign _ ih =>
    rw [List.all_append, sign.exprChars (by decide), ih]
    rfl
  | dice term spaced => exact spaced.exprChars (exprChars_of_termChars term.termChars)
  | number numeral _ spaced => exact spaced.exprChars (exprChars_of_termChars numeral.termChars)
  | group _ spaced ih => exact spaced.exprChars (by rw [List.all_cons, List.all_append, ih]; decide)

theorem Text.mem_lowerAfter {c : Char} (plain : isPlain c = true) {text : Text} (member : c ∈ text)
    (before : Text) : c ∈ lowerAfter before text := by
  induction text generalizing before with
  | nil => contradiction
  | cons d ds ih =>
    unfold lowerAfter
    rcases List.mem_cons.mp member with rfl | later
    · have notSigma : c ≠ 'Σ' := by
        rintro rfl
        contradiction
      simp only [isPlain, Bool.and_eq_true, decide_eq_true_eq, beq_iff_eq] at plain
      simp [notSigma, lowerChar, plain.1, plain.2]
    · exact List.mem_append_right _ (ih later _)

/-- A character that is its own lower case and is not used in expressions is in no text that reads
as one. -/
theorem DiceExpr.not_mem_of_parse {text : Text} {e : DiceExpr} (reads : DiceExpr.parse text = .ok e)
    {c : Char} (plain : isPlain c = true) (foreign : isExprChar c = false) : c ∉ text := by
  intro member
  have sentence := DiceExpr.sentence_of_parse reads
  have used := List.all_eq_true.mp sentence.exprChars c (Text.mem_lowerAfter plain member [])
  rw [foreign] at used
  contradiction

end Tabletop
