import Tabletop.Formula.Extract
import Tabletop.Proofs.Brackets
import Tabletop.Proofs.Extracting.DiceTokens
import Tabletop.Proofs.Extracting.LeadingToken
import Tabletop.Proofs.Extracting.Words

/-! What is kept of a line. The formula and the comment of a line come from it without loss, and the
shape says how. -/
namespace Tabletop

/-- A span in brackets with dice in it, and the text before and after it. -/
structure DiceSpan (text before inner after : Text) : Prop where
  split : text = before ++ '[' :: (inner ++ ']' :: after)
  unopened : '[' ∉ inner
  unclosed : ']' ∉ inner
  dice : hasDiceToken inner = true

theorem diceSpan_cons_iff {c : Char} {cs before inner after : Text} :
    DiceSpan (c :: cs) before inner after ↔
      (before = [] ∧ bracket (c :: cs) = some (inner, after) ∧ hasDiceToken inner = true) ∨
        ∃ others, before = c :: others ∧ DiceSpan cs others inner after := by
  constructor
  · rintro ⟨split, unopened, unclosed, dice⟩
    cases before with
    | nil => exact .inl ⟨rfl, bracket_eq_some_iff.mpr ⟨split, unopened, unclosed⟩, dice⟩
    | cons d others =>
      obtain ⟨rfl, rfl⟩ := List.cons.inj split
      exact .inr ⟨others, rfl, rfl, unopened, unclosed, dice⟩
  · rintro (⟨rfl, reads, dice⟩ | ⟨others, rfl, rfl, unopened, unclosed, dice⟩)
    · obtain ⟨split, unopened, unclosed⟩ := bracket_eq_some_iff.mp reads
      exact ⟨split, unopened, unclosed, dice⟩
    · exact ⟨rfl, unopened, unclosed, dice⟩

theorem DiceSpan.mem {text before inner after : Text} (span : DiceSpan text before inner after) :
    '[' ∈ text := by
  rw [span.split]
  exact List.mem_append_right before List.mem_cons_self

theorem DiceSpan.append {text before inner after : Text} (span : DiceSpan text before inner after)
    (front : Text) : DiceSpan (front ++ text) (front ++ before) inner after where
  split := by rw [span.split, List.append_assoc]
  unopened := span.unopened
  unclosed := span.unclosed
  dice := span.dice

theorem DiceSpan.of_append {front text before inner after : Text} (unopened : '[' ∉ front)
    (span : DiceSpan (front ++ text) before inner after) :
    ∃ others, DiceSpan text others inner after := by
  induction front generalizing before with
  | nil => exact ⟨before, span⟩
  | cons c front ih =>
    rcases diceSpan_cons_iff.mp span with ⟨_, reads, _⟩ | ⟨others, _, span⟩
    · obtain ⟨split, _⟩ := bracket_eq_some_iff.mp reads
      exact absurd ((List.cons.inj split).1 ▸ List.mem_cons_self) unopened
    · exact ih (fun member => unopened (List.mem_cons_of_mem c member)) span

structure FirstSpan (text before inner after : Text) : Prop where
  span : DiceSpan text before inner after
  first : ∀ earlier part rest, DiceSpan text earlier part rest → before.length ≤ earlier.length

theorem bracketRoll?_of_reads {c : Char} {cs inner after : Text}
    (reads : bracket (c :: cs) = some (inner, after))
    (dice : hasDiceToken inner = true) : bracketRoll? (c :: cs) = some ([], inner, after) := by
  rw [bracketRoll?, reads]
  simp [dice]

theorem bracketRoll?_of_dry {c : Char} {cs : Text}
    (dry : ∀ inner after, bracket (c :: cs) = some (inner, after) → hasDiceToken inner = false) :
    bracketRoll? (c :: cs) = (bracketRoll? cs).map fun (before, inner, after) =>
      (c :: before, inner, after) := by
  rw [bracketRoll?]
  split
  · next reads => simp [dry _ _ reads]
  · rfl

theorem bracketRoll?_spec (text : Text) :
    (∃ before inner after, bracketRoll? text = some (before, inner, after) ∧
      FirstSpan text before inner after) ∨
        (bracketRoll? text = none ∧ ∀ before inner after, ¬ DiceSpan text before inner after) := by
  induction text with
  | nil => exact .inr ⟨rfl, fun before inner after span => by simpa using span.split⟩
  | cons c cs ih =>
    by_cases here : ∃ inner after, bracket (c :: cs) = some (inner, after) ∧
      hasDiceToken inner = true
    · obtain ⟨inner, after, reads, dice⟩ := here
      have span : DiceSpan (c :: cs) [] inner after :=
        diceSpan_cons_iff.mpr (.inl ⟨rfl, reads, dice⟩)
      exact .inl ⟨[], inner, after, bracketRoll?_of_reads reads dice, span,
        fun _ _ _ _ => Nat.zero_le _⟩
    · have dry :
          ∀ inner after, bracket (c :: cs) = some (inner, after) → hasDiceToken inner = false :=
        fun inner after reads => Bool.eq_false_iff.mpr fun dice => here ⟨inner, after, reads, dice⟩
      have later : ∀ before inner after, DiceSpan (c :: cs) before inner after →
          ∃ others, before = c :: others ∧ DiceSpan cs others inner after := by
        intro before inner after span
        rcases diceSpan_cons_iff.mp span with ⟨_, reads, dice⟩ | later
        · exact absurd ⟨inner, after, reads, dice⟩ here
        · exact later
      rw [bracketRoll?_of_dry dry]
      rcases ih with ⟨before, inner, after, found, span, first⟩ | ⟨none, empty⟩
      · refine .inl ⟨c :: before, inner, after, by rw [found]; rfl, ?_,
          fun earlier part rest other => ?_⟩
        · exact diceSpan_cons_iff.mpr (.inr ⟨before, rfl, span⟩)
        · obtain ⟨others, rfl, behind⟩ := later _ _ _ other
          exact Nat.succ_le_succ (first _ _ _ behind)
      · refine .inr ⟨by rw [none]; rfl, fun before inner after span => ?_⟩
        obtain ⟨others, _, span⟩ := later _ _ _ span
        exact empty _ _ _ span

theorem bracketRoll?_of_unspanned {text : Text}
    (unspanned : ∀ before inner after, ¬ DiceSpan text before inner after) :
    bracketRoll? text = none := by
  rcases bracketRoll?_spec text with ⟨before, inner, after, _, first⟩ | ⟨none, _⟩
  · exact absurd first.span (unspanned before inner after)
  · exact none

/-- How the formula and the comment come from a trimmed line, for each shape. -/
def Extracted.Keeps (extracted : Extracted) (line : Text) : Prop :=
  match extracted.shape with
  | .chained => extracted.formula = line ∧ extracted.comment = none
  | .bracketed => ∃ before inner after, FirstSpan line before inner after ∧
      extracted.formula = inner.trim ∧
      extracted.comment =
        (let words := Text.words before ++ Text.words after
        if words = [] then none else some (Text.joined [' '] words))
  | .plain | .prose => (extracted.formula = line ∧ extracted.comment = none) ∨
      ∃ between comment, line = extracted.formula ++ (between ++ comment) ∧
        extracted.comment = some comment ∧ between ≠ [] ∧ between.allBlank = true ∧
        extracted.formula.Trimmed ∧ comment.Trimmed

theorem extract_blocks (line : Text) : (extract line).blocks = CriticalBlock.findAll line.trim := by
  unfold extract
  dsimp only
  split
  · rfl
  · split <;> rfl

theorem extract_chained {line : Text} (chain : '&' ∈ line.trim ∧ ';' ∈ line.trim) :
    extract line = ⟨.chained, line.trim, none, CriticalBlock.findAll line.trim,
      hasDiceToken line.trim⟩ := by
  simp only [extract, chain, and_self, if_true]

theorem extract_bracketed {line before inner after : Text}
    (single : ¬('&' ∈ line.trim ∧ ';' ∈ line.trim))
    (found : bracketRoll? line.trim = some (before, inner, after)) :
    extract line = ⟨.bracketed, inner.trim,
      Text.unlessEmpty (Text.trim (before ++ ' ' :: after)).collapsed,
      CriticalBlock.findAll line.trim, true⟩ := by
  simp only [extract, single, if_false, found]

theorem extract_token {line formula : Text} {comment : Option Text}
    (single : ¬('&' ∈ line.trim ∧ ';' ∈ line.trim)) (unbracketed : bracketRoll? line.trim = none)
    (token : (leadingToken? line.trim).getD (line.trim, none) = (formula, comment)) :
    extract line = ⟨if formula.isEmpty || (comment.isSome && !hasDiceToken formula) then .prose
      else .plain, formula, comment, CriticalBlock.findAll line.trim, hasDiceToken formula⟩ := by
  simp only [extract, single, if_false, unbracketed, token]

theorem leadingToken?_getD_trim (line : Text) :
    ∃ formula comment, (leadingToken? line.trim).getD (line.trim, none) = (formula, comment) ∧
      ((formula = line.trim ∧ comment = none) ∨
        ∃ between text, line.trim = formula ++ (between ++ text) ∧ comment = some text ∧
          between ≠ [] ∧ between.allBlank = true ∧ formula.Trimmed ∧ text.Trimmed) := by
  by_cases empty : line.trim = []
  · rw [empty]
    exact ⟨[], none, rfl, .inl ⟨rfl, rfl⟩⟩
  · rcases leadingToken?_trimmed (Text.trimmed_trim empty) with reads
      | ⟨token, between, text, reads, rest⟩
    · exact ⟨_, _, by rw [reads]; rfl, .inl ⟨rfl, rfl⟩⟩
    · obtain ⟨split, apart, blank, starts, ends⟩ := rest
      exact ⟨token, some text, by rw [reads]; rfl,
        .inr ⟨between, text, split, rfl, apart, blank, starts, ends⟩⟩

/-- No text of a line is lost: each shape gives the formula and the comment from the trimmed line in
its own way, and whether there are dice is told from the formula alone. -/
theorem extract_keeps (line : Text) :
    ((extract line).shape = .chained ↔ '&' ∈ line.trim ∧ ';' ∈ line.trim) ∧
      ((extract line).shape = .bracketed ↔ ¬('&' ∈ line.trim ∧ ';' ∈ line.trim) ∧
        ∃ before inner after, DiceSpan line.trim before inner after) ∧
      (extract line).Keeps line.trim ∧
      (extract line).hasDice = hasDiceToken (extract line).formula := by
  by_cases chain : '&' ∈ line.trim ∧ ';' ∈ line.trim
  · rw [extract_chained chain]
    simp [chain, Extracted.Keeps]
  · rcases bracketRoll?_spec line.trim with ⟨before, inner, after, found, first⟩ | ⟨none, empty⟩
    · rw [extract_bracketed chain found]
      have comment : Text.unlessEmpty (Text.trim (before ++ ' ' :: after)).collapsed =
          if Text.words before ++ Text.words after = [] then .none
          else some (Text.joined [' '] (Text.words before ++ Text.words after)) := by
        rw [Text.collapsed_trim, Text.unlessEmpty_words, Text.words_append_blank (by decide)]
      have holds := hasDiceToken_trim first.span.dice
      refine ⟨by simp [chain], ?_, ⟨before, inner, after, first, rfl, comment⟩, holds.symm⟩
      simp only [true_iff]
      exact ⟨chain, before, inner, after, first.span⟩
    · obtain ⟨formula, comment, token, kept⟩ := leadingToken?_getD_trim line
      rw [extract_token chain none token]
      cases formula.isEmpty || (comment.isSome && !hasDiceToken formula) with
      | true => exact ⟨by simp [chain], by simp [empty], kept, rfl⟩
      | false => exact ⟨by simp [chain], by simp [empty], kept, rfl⟩

example : extract ['a', ' ', '[', ' ', 'd', '6', ']', ' ', ' ', 'b'] =
    ⟨.bracketed, ['d', '6'], some ['a', ' ', 'b'], [], true⟩ := by
  decide +kernel

end Tabletop
