import Tabletop.Proofs.Composing.Single
import Tabletop.Proofs.Reading.Templates
import Tabletop.Proofs.Resolving.Substitution

/-! The total of the first roll in later ones. It enters as one operand, whatever stands around the
reference; the least amount alone cannot be written as an operand. -/
namespace Tabletop

theorem Amount.exists_enters {n : Amount} (above : -2147483648 < n.value) :
    ∃ operand, n.Enters operand := by
  have upper := n.upper
  by_cases negative : n.value < 0
  · exact ⟨.neg (.number ⟨-n.value, by omega, by omega⟩), .negated negative rfl⟩
  · exact ⟨.number n, .number (by omega)⟩

theorem DiceExpr.sentence_of_filledWith {text name : Text} {tree : DiceExpr}
    (reads : DiceExpr.parse (text.filledWith (Expr.grouped name)) = .ok tree) (marked : '&' ∈ text)
    (caseless : ∀ c ∈ name, isCaseless c = true) (unopened : '(' ∉ name) (unclosed : ')' ∉ name) :
    ∃ e, Sentence .sum name e := by
  have sentence := DiceExpr.sentence_of_parse reads
  obtain ⟨before, after, rfl⟩ := List.append_of_mem marked
  have opening : lowerChar '(' = ['('] := by decide
  have closing : lowerChar ')' = [')'] := by decide
  rw [Text.lowercase_eq_flatMap sentence.exprChars, Text.filledWith_append, Text.filledWith_mark,
    List.flatMap_append, List.flatMap_append, Expr.grouped, List.flatMap_append, List.flatMap_cons,
    opening, List.flatMap_singleton, closing, Text.flatMap_lowerChar_of_caseless caseless,
    List.append_assoc, List.append_assoc, List.singleton_append] at sentence
  exact sentence.nested.inner _ _ _ rfl unopened unclosed

theorem DiceExpr.unread_of_least {total : Amount} (least : total.value = -2147483648) {text : Text}
    (referring : '&' ∈ text) (tree : DiceExpr) :
    DiceExpr.parse (Engine.withFirstTotal total text) ≠ .ok tree := by
  intro reads
  obtain rfl : total = ⟨-2147483648, by decide, by decide⟩ := Amount.ext least
  have operand :
      Amount.operand ⟨-2147483648, by decide, by decide⟩ = Expr.grouped "-2147483648".toList := by
    decide +kernel
  have filled :
      DiceExpr.parse (text.filledWith (Expr.grouped "-2147483648".toList)) = .ok tree := by
    rw [← operand]
    exact reads
  obtain ⟨e, sentence⟩ :=
    sentence_of_filledWith filled referring (Text.forall_of_all (by decide +kernel)) (by decide)
    (by decide)
  have size : DiceExpr.parse? "-2147483648".toList = none := by decide +kernel
  have lower : Text.lowercase "-2147483648".toList = "-2147483648".toList := by decide +kernel
  rw [DiceExpr.parse?_of_sentence (lower ▸ sentence)] at size
  cases size

/-- The first total stands for its references: a text with room for operands there is read as the
same expression with the total as operand, for every total that is not the least amount, and with
that one it is not read at all. -/
theorem DiceExpr.parse_withFirstTotal {text : Text} {e : DiceExpr}
    (reads : DiceExpr.parse (text.filledWith Text.room) = .ok e) :
    ∃ shape : Expr (Option Dice), shape.leaves.count none = text.count '&' ∧
      shape.filled (.number ⟨0, by decide, by decide⟩) = e ∧
      ∀ total : Amount,
        (∀ operand, total.Enters operand →
          DiceExpr.parse (Engine.withFirstTotal total text) = .ok (shape.filled operand)) ∧
        ((∃ tree, DiceExpr.parse (Engine.withFirstTotal total text) = .ok tree) ↔
          '&' ∉ text ∨ -2147483648 < total.value) := by
  obtain ⟨shape, places, zero, filled⟩ := parse_filledWith reads
  have entered (total : Amount) (operand : DiceExpr) (enters : total.Enters operand) :
      DiceExpr.parse (Engine.withFirstTotal total text) = .ok (shape.filled operand) :=
    filled total.plain_operand enters.sentence
  refine ⟨shape, places, zero, fun total => ⟨entered total, ?_, ?_⟩⟩
  · rintro ⟨tree, read⟩
    by_cases above : -2147483648 < total.value
    · exact .inr above
    · have lower := total.lower
      exact .inl fun referring => DiceExpr.unread_of_least (by omega) referring tree read
  · rintro (unreferring | above)
    · refine ⟨e, ?_⟩
      rw [← reads, Text.filledWith_of_not_mem unreferring]
      exact congrArg DiceExpr.parse (Text.filledWith_of_not_mem unreferring)
    · obtain ⟨operand, enters⟩ := Amount.exists_enters above
      exact ⟨_, entered total operand enters⟩

theorem DiceExpr.parse_withFirstTotal_signed :
    let text : Text := "-& * (2D6 + & )".toList
    let zero : DiceExpr := .number ⟨0, by decide, by decide⟩
    let e : DiceExpr := .binary .mul (.neg zero) (.binary .add (.leaf ⟨2, 6, []⟩) zero)
    DiceExpr.parse (text.filledWith Text.room) = .ok e ∧
    ∃ shape : Expr (Option Dice), shape.leaves.count none = 2 ∧ shape.filled zero = e ∧
      ∀ total : Amount,
        (∀ operand, total.Enters operand →
          DiceExpr.parse (Engine.withFirstTotal total text) = .ok (shape.filled operand)) ∧
        ((∃ tree, DiceExpr.parse (Engine.withFirstTotal total text) = .ok tree) ↔
          '&' ∉ text ∨ -2147483648 < total.value) := by
  intro text zero e
  have reads : DiceExpr.parse (text.filledWith Text.room) = .ok e :=
    parse_eq_ok_iff_parse?.mpr (by decide +kernel)
  exact ⟨reads, parse_withFirstTotal reads⟩

/-- There is room for an operand, but the total of the first roll is the least amount. -/
theorem Engine.least_total_unread :
    let least : Amount := ⟨-2147483648, by decide, by decide⟩
    (∃ e, DiceExpr.parse (Text.filledWith "&+1".toList Text.room) = .ok e) ∧
    (∃ segment, (Engine.fragment none none "-2147483647-1".toList).run (.queue []) =
      (.ok segment, .queue []) ∧ segment.total = least) ∧
    ¬ ∃ tree, DiceExpr.parse (Engine.withFirstTotal least "&+1".toList) = .ok tree := by
  intro least
  refine ⟨⟨_, rfl⟩, ⟨_, rfl, rfl⟩, ?_⟩
  rintro ⟨tree, reads⟩
  exact DiceExpr.unread_of_least rfl (by decide) tree reads

theorem Amount.visible_operand (n : Amount) : ∀ c ∈ n.operand, isBlank c = false := by
  unfold operand
  split
  · intro c member
    rcases List.mem_cons.mp member with rfl | member
    · decide
    · rcases List.mem_append.mp member with inside | closes
      · exact n.visible_text c inside
      · rw [List.mem_singleton.mp closes]
        decide
  · exact n.visible_text

theorem Amount.operand_ne_nil (n : Amount) : n.operand ≠ [] := by
  obtain ⟨c, cs, first, _⟩ := n.startsOperand_operand
  rw [first]
  exact List.cons_ne_nil c cs

theorem Text.Trimmed.filledWith {text new : Text} (trimmed : text.Trimmed) (nonempty : new ≠ [])
    (visible : ∀ c ∈ new, isBlank c = false) : Trimmed (text.filledWith new) := by
  refine trimmed.flatMap fun c seen => ?_
  split
  · exact ⟨nonempty, visible⟩
  · exact ⟨List.cons_ne_nil c [], by simpa using seen⟩

namespace Engine

theorem rollBody_of_parse {body : Text} {e : DiceExpr} (trimmed : body.Trimmed)
    (reads : DiceExpr.parse body = .ok e) (limit : Option Nat) (comment : Option Text) :
    rollBody limit comment body = do
      let (rolled, total) ← evaluate e
      return ⟨body, rolled.text limit, total, rolled.natural, none, comment⟩ := by
  have nonempty : body.isEmpty = false := List.isEmpty_eq_false_iff.mpr trimmed.ne_nil
  simp only [rollBody, Comparator.extract_signless (DiceExpr.signless_of_parse reads), trimmed.trim,
    nonempty, reads, comparator?, Bool.false_eq_true, if_false, List.isEmpty_nil, if_true,
    pure_bind]

theorem splitComment_fst_trim (text : Text) : ∃ body : Text, (splitComment text).1 = body.trim := by
  unfold splitComment
  split
  · exact ⟨_, rfl⟩
  · split <;> exact ⟨_, rfl⟩

theorem fragment_of_parse {text : Text} {e : DiceExpr}
    (reads : DiceExpr.parse ((splitComment text).1.filledWith Text.room) = .ok e) :
    ∃ shape : Expr (Option Dice), shape.filled (.number ⟨0, by decide, by decide⟩) = e ∧
      ∀ (limit : Option Nat) (total : Amount) (operand : DiceExpr), total.Enters operand →
        fragment limit (some total) text = do
          let (rolled, value) ← evaluate (shape.filled operand)
          return ⟨withFirstTotal total (splitComment text).1, rolled.text limit, value,
            rolled.natural, none, (splitComment text).2⟩ := by
  obtain ⟨shape, _, zero, filled⟩ := DiceExpr.parse_filledWith reads
  refine ⟨shape, zero, fun limit total operand enters => ?_⟩
  have trimmed : Text.Trimmed (splitComment text).1 := by
    obtain ⟨body, same⟩ := splitComment_fst_trim text
    rw [same] at reads ⊢
    apply Text.trimmed_trim
    intro empty
    rw [empty] at reads
    cases reads
  exact rollBody_of_parse (trimmed.filledWith total.operand_ne_nil total.visible_operand)
    (filled total.plain_operand enters.sentence) limit _

end Engine

end Tabletop
