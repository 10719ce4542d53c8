import Tabletop.Proofs.Extracting.Joints
import Tabletop.Proofs.Extracting.Line
import Tabletop.Proofs.Reading.LowerCase
import Tabletop.Proofs.Reading.Printing

/-! Lines that read as an expression. No mark of chains, brackets or blocks stands in one, so its
words alone decide whether all of it is taken: the grammar allows blanks anywhere around an
operator, the token none behind one that ends a word. What is printed for an expression has blanks
on both sides of its operators, and is always taken whole. -/
namespace Tabletop

variable {line : Text} {e : DiceExpr}

theorem DiceExpr.trimmed_of_parse (reads : DiceExpr.parse line = .ok e) : line.trim.Trimmed := by
  apply Text.trimmed_trim
  intro empty
  have blank : line.allBlank = true := by
    apply Text.words_eq_nil_iff.mp
    rw [← Text.words_trim, empty, Text.words_nil]
  have same : line.lowercase = line := by
    rw [Text.lowercase, Text.lowerAfter_eq_flatMap (Text.not_mem_of_allBlank (by decide) blank),
      Text.flatMap_lowerChar_of_blank blank]
  have sentence := DiceExpr.sentence_of_parse reads
  rw [same] at sentence
  rw [sentence.allBlank_eq_false] at blank
  cases blank

theorem extract_trim (line : Text) : extract line.trim = extract line := by
  simp only [extract, Text.trim_trim]

theorem extract_of_goesOn (trimmed : line.Trimmed) (unopened : line.head? ≠ some '\x7b')
    (single : ¬('&' ∈ line ∧ ';' ∈ line)) (unbracketed : bracketRoll? line = none)
    (goes : Reader.goesOn line.words.tail = true) :
    extract line = ⟨.plain, line, none, CriticalBlock.findAll line, hasDiceToken line⟩ := by
  have whole := leadingToken?_of_goesOn trimmed unopened goes
  have same := trimmed.trim
  rw [← same] at single unbracketed whole
  rw [extract_token single unbracketed (by rw [whole]), same]
  simp [trimmed.ne_nil]

/-- Of a line that reads as an expression the formula is the whole exactly when the token takes all
words. -/
theorem extract_expression_iff (reads : DiceExpr.parse line = .ok e) :
    ((extract line).shape = .plain ∧ (extract line).formula = line.trim ∧
      (extract line).comment = none) ↔ Reader.goesOn line.words.tail = true := by
  have absent {c : Char} (plain : isPlain c = true) (foreign : isExprChar c = false) :
      c ∉ line.trim := fun member =>
    DiceExpr.not_mem_of_parse reads plain foreign (Text.mem_of_mem_trim member)
  have trimmed := DiceExpr.trimmed_of_parse reads
  have single : ¬('&' ∈ line.trim ∧ ';' ∈ line.trim) :=
    fun chain => absent (by decide) (by decide) chain.1
  have unbracketed : bracketRoll? line.trim = none :=
    bracketRoll?_of_unspanned fun _ _ _ span => absent (by decide) (by decide) span.mem
  have unopened : '\x7b' ∉ line.trim := absent (by decide) (by decide)
  constructor
  · rintro ⟨_, formula, comment⟩
    rw [← Text.words_trim]
    apply (leadingToken?_eq_iff trimmed unopened).mp
    rcases leadingToken?_trimmed trimmed with whole | ⟨token, between, rest, whole, _⟩
    · exact whole
    · rw [extract_token single unbracketed (by rw [whole])] at comment
      cases comment
  · intro goes
    have front : line.trim.head? ≠ some '\x7b' :=
      fun opens => unopened (List.mem_of_mem_head? opens)
    rw [← Text.words_trim] at goes
    rw [← extract_trim, extract_of_goesOn trimmed front single unbracketed goes]
    exact ⟨rfl, rfl, rfl⟩

def spacedExpression : Text :=
  ['-', '1', 'd', '4', ' ', '+', '3', ' ', '*', ' ', '(', '2', ' ', '-', '1', ')']

theorem extract_expression_iff_spaced :
    DiceExpr.parse spacedExpression =
        .ok (.binary .add (.neg (.leaf ⟨1, 4, []⟩)) (.binary .mul (.number (.ofSum 3 (by decide)))
          (.binary .sub (.number (.ofSum 2 (by decide))) (.number (.ofSum 1 (by decide)))))) ∧
      Reader.goesOn spacedExpression.words.tail = true ∧ (extract spacedExpression).shape = .plain ∧
      (extract spacedExpression).formula = spacedExpression.trim ∧
      (extract spacedExpression).comment = none :=
  have reads := DiceExpr.parse_eq_ok_iff_parse?.mpr (by decide +kernel)
  ⟨reads, by decide, (extract_expression_iff reads).mpr (by decide)⟩

/-- An operator at the end of a word does not take the next one. -/
theorem extract_expression_torn :
    DiceExpr.parse ['1', 'd', '2', '0', '+', ' ', '3'] =
        .ok (.binary .add (.leaf ⟨1, 20, []⟩) (.number (.ofSum 3 (by decide)))) ∧
      extract ['1', 'd', '2', '0', '+', ' ', '3'] =
        ⟨.plain, ['1', 'd', '2', '0', '+'], some ['3'], [], true⟩ :=
  ⟨DiceExpr.parse_eq_ok_iff_parse?.mpr (by decide +kernel), by decide +kernel⟩

theorem isBlank_of_isDiceMark {c : Char} (mark : isDiceMark c = true) : isBlank c = false := by
  rcases Bool.or_eq_true_iff.mp mark with digit | letter
  · exact isBlank_of_isDigit digit
  · have letters : (diceLetters.all fun c => !isBlank c) = true := by decide
    simpa using List.all_eq_true.mp letters c (List.contains_iff_mem.mp letter)

/-- Words, and between two of them an operator with a blank on either side. -/
inductive OperatorsApart : Text → Prop where
  | word {word : Text} : word ≠ [] → (∀ c ∈ word, isBlank c = false) → OperatorsApart word
  | more {word text : Text} {op : Op} : word ≠ [] → (∀ c ∈ word, isBlank c = false) →
      OperatorsApart text → OperatorsApart (word ++ ' ' :: op.symbol :: ' ' :: text)

namespace OperatorsApart

variable {text right : Text}

theorem cons {c : Char} (visible : isBlank c = false) (apart : OperatorsApart text) :
    OperatorsApart (c :: text) := by
  cases apart with
  | word _ others =>
      exact .word (List.cons_ne_nil c text) (List.forall_mem_cons.mpr ⟨visible, others⟩)
  | @more word _ _ _ others apart =>
    exact .more (List.cons_ne_nil c word) (List.forall_mem_cons.mpr ⟨visible, others⟩) apart

theorem concat {c : Char} (visible : isBlank c = false) (apart : OperatorsApart text) :
    OperatorsApart (text ++ [c]) := by
  induction apart with
  | @word word _ others =>
    apply OperatorsApart.word (List.append_ne_nil_of_right_ne_nil word (List.cons_ne_nil c []))
    exact List.forall_mem_append.mpr ⟨others, List.forall_mem_singleton.mpr visible⟩
  | more nonempty others _ ih =>
    rw [List.append_assoc]
    exact .more nonempty others ih

theorem operator (op : Op) (left : OperatorsApart text) (apart : OperatorsApart right) :
    OperatorsApart (text ++ ' ' :: op.symbol :: ' ' :: right) := by
  induction left with
  | word nonempty others => exact .more nonempty others apart
  | more nonempty others _ ih =>
    rw [List.append_assoc]
    exact .more nonempty others ih

theorem grouped (apart : OperatorsApart text) : OperatorsApart (Expr.grouped text) :=
  (apart.cons (by decide)).concat (by decide)

theorem trimmed (apart : OperatorsApart text) : text.Trimmed := by
  induction apart with
  | word nonempty others => exact Text.trimmed_of_visible nonempty others
  | @more _ _ op nonempty others _ ih =>
    exact (Text.trimmed_of_visible nonempty others).append [' ', op.symbol, ' '] ih

theorem goesOn (apart : OperatorsApart text) : Reader.goesOn text.words.tail = true := by
  induction apart with
  | word nonempty others =>
    rw [Text.words_of_visible nonempty others]
    rfl
  | @more word text op nonempty others apart ih =>
    have blank (text : Text) : ∀ c ∈ (' ' :: text).head?, isBlank c = true := by
      simp
      decide
    have alone : ∀ c ∈ [op.symbol], isBlank c = false :=
      List.forall_mem_singleton.mpr op.symbol_facts.2.1
    have operator : Text.words (op.symbol :: ' ' :: text) = [op.symbol] :: text.words := by
      rw [← Text.words_cons_blank (b := ' ') (by decide) text]
      exact Text.words_append (List.cons_ne_nil _ []) alone (blank text)
    have parts : Text.words (word ++ ' ' :: op.symbol :: ' ' :: text) =
        word :: [op.symbol] :: text.words := by
      rw [Text.words_append nonempty others (blank _), Text.words_cons_blank (by decide), operator]
    obtain ⟨next, words, later⟩ := List.exists_cons_of_ne_nil
      (Text.words_ne_nil apart.trimmed.stop apart.trimmed.ne_nil)
    have joint : Reader.isJoint op.symbol = true := by cases op <;> rfl
    rw [later] at ih parts
    rw [parts]
    simpa [Reader.goesOn, joint] using ih

end OperatorsApart

theorem Writable.operatorsApart (writable : Writable e) : OperatorsApart e.text := by
  induction writable with
  | @number n _ =>
    exact OperatorsApart.word n.text_ne_nil n.visible_text
  | @leaf d _ =>
    apply OperatorsApart.word
    · simp [DiceExpr.text, Expr.text, Dice.text]
    · exact fun c member => isBlank_of_isDiceMark (List.all_eq_true.mp d.diceMarks_text c member)
  | @neg e _ ih =>
    apply OperatorsApart.cons (by decide)
    split
    · exact ih
    · exact ih.grouped
  | @binary op a b _ _ left right =>
    apply OperatorsApart.operator
    · split
      · exact left.grouped
      · exact left
    · split
      · exact right.grouped
      · exact right

theorem DiceExpr.extract_text (writable : Writable e) :
    extract e.text = ⟨.plain, e.text, none, [], hasDiceToken e.text⟩ := by
  have sentence := writable.sentence.toSum
  have absent {c : Char} (foreign : isExprChar c = false) : c ∉ e.text :=
    Text.not_mem_of_all sentence.exprChars foreign
  have unopened : '\x7b' ∉ e.text := absent (by decide)
  have blocks : CriticalBlock.findAll e.text = [] := by
    rw [CriticalBlock.findAll, Reader.findings_of_not_mem
      (fun _ _ => CriticalBlock.mem_of_reader) (absent (by decide)), List.map_nil]
  rw [← blocks]
  apply extract_of_goesOn writable.operatorsApart.trimmed
  · exact fun opens => unopened (List.mem_of_mem_head? opens)
  · exact fun chain => absent (by decide) chain.1
  · exact bracketRoll?_of_unspanned fun _ _ _ span => absent (by decide) span.mem
  · exact writable.operatorsApart.goesOn

end Tabletop
