import Tabletop.Proofs.Extracting.Expressions
import Tabletop.Proofs.Reading.Nesting
import Tabletop.Proofs.Stripping

/-! A critical block inside a line. Behind dice it is found and taken out again, and what is
extracted otherwise is what the line without it gives. -/
namespace Tabletop

namespace Reader

variable {text : Text}

theorem goesOn_of_visible (visible : ∀ c ∈ text, isBlank c = false) :
    goesOn text.words.tail = true := by
  by_cases empty : text = []
  · rw [empty]
    rfl
  · rw [Text.words_of_visible empty visible]
    rfl

end Reader

namespace CriticalBlock

variable {front blockText tail : Text} {block : CriticalBlock}

theorem reads_append (whole : reader blockText = some (block, [])) (tail : Text) :
    reader (blockText ++ tail) = some (block, tail) := by
  obtain ⟨inner, split⟩ := exists_of_reads whole
  rw [← List.append_nil blockText] at whole
  refine reads_before ?_ whole tail
  rw [split]
  simp

section Behind

variable (unopened : '\x7b' ∉ front)

include unopened

theorem strip_behind (text : Text) : strip (front ++ text) = front ++ strip text :=
  Reader.substituted_append_of_none (reader_starts.never unopened) _ text

theorem findAll_behind (text : Text) : findAll (front ++ text) = findAll text := by
  rw [findAll, Reader.findings_append_of_none (reader_starts.never unopened), findAll]

theorem strip_between (whole : reader blockText = some (block, [])) (tail : Text) :
    strip (front ++ (blockText ++ tail)) = front ++ strip tail := by
  rw [strip_behind unopened, strip_of_reads (reads_append whole tail)]

theorem findAll_between (whole : reader blockText = some (block, [])) (tail : Text) :
    findAll (front ++ (blockText ++ tail)) =
      { block with value := block.value.trim } :: findAll tail := by
  rw [findAll_behind unopened, findAll_of_reads (reads_append whole tail)]

end Behind

end CriticalBlock

theorem hasDiceToken_of_strip {text other : Text}
    (same : CriticalBlock.strip text = CriticalBlock.strip other) :
    hasDiceToken text = hasDiceToken other := by
  rw [hasDiceToken, same, hasDiceToken]

theorem Dice.parse_expression {text : Text} {dice : Dice} (reads : Dice.parse text = .ok dice) :
    DiceExpr.parse text = .ok (.leaf dice) := by
  obtain ⟨core, term, spaced⟩ := Dice.parse_eq_ok_iff_term.mp reads
  apply DiceExpr.parse_of_sentence
  exact .ofProduct (.ofUnary (.ofAtom (.dice term spaced)))

theorem Dice.not_mem_of_parse {text : Text} {dice : Dice} (reads : Dice.parse text = .ok dice)
    {c : Char} (plain : isPlain c = true) (foreign : isExprChar c = false) : c ∉ text :=
  DiceExpr.not_mem_of_parse (Dice.parse_expression reads) plain foreign

theorem Dice.ne_nil_of_parse {text : Text} {dice : Dice} (reads : Dice.parse text = .ok dice) :
    text ≠ [] := by
  rintro rfl
  exact (DiceExpr.trimmed_of_parse (Dice.parse_expression reads)).ne_nil rfl

section Between

variable {formula blockText tail line : Text} {dice : Dice} {block : CriticalBlock}

theorem trimmed_between (starts : formula.Trimmed)
    (whole : CriticalBlock.reader blockText = some (block, []))
    (joined : ∀ c ∈ tail, isBlank c = false) : Text.Trimmed (formula ++ (blockText ++ tail)) := by
  obtain ⟨inner, split⟩ := CriticalBlock.exists_of_reads whole
  have last : Text.Trimmed ('\x7d' :: tail) := by
    apply Text.trimmed_of_visible (List.cons_ne_nil _ _)
    exact List.forall_mem_cons.mpr ⟨by decide, joined⟩
  rw [split]
  simpa using starts.append ('\x7b' :: inner) last

theorem head?_append_ne {c : Char} (nonempty : formula ≠ []) (fresh : c ∉ formula) (text : Text) :
    (formula ++ text).head? ≠ some c := by
  rw [List.head?_append_of_ne_nil formula nonempty]
  exact fun opens => fresh (List.mem_of_mem_head? opens)

theorem extract_without_block (solid : ∀ c ∈ formula, isBlank c = false)
    (reads : Dice.parse formula = .ok dice) (joined : ∀ c ∈ tail, isBlank c = false)
    (single : ¬('&' ∈ formula ++ (blockText ++ tail) ∧ ';' ∈ formula ++ (blockText ++ tail)))
    (unspanned : ∀ before inner after,
      ¬ DiceSpan (formula ++ (blockText ++ tail)) before inner after) : extract (formula ++ tail) =
      ⟨.plain, formula ++ tail, none, CriticalBlock.findAll tail,
        hasDiceToken (formula ++ tail)⟩ := by
  have unopened : '\x7b' ∉ formula := Dice.not_mem_of_parse reads (by decide) (by decide)
  have nonempty : formula ≠ [] := Dice.ne_nil_of_parse reads
  have visible : ∀ c ∈ formula ++ tail, isBlank c = false :=
    List.forall_mem_append.mpr ⟨solid, joined⟩
  have wider : formula ++ tail ⊆ formula ++ (blockText ++ tail) :=
    ((List.sublist_append_right blockText tail).append_left formula).subset
  have unbracketed : bracketRoll? (formula ++ tail) = none := by
    apply bracketRoll?_of_unspanned
    intro before inner after span
    obtain ⟨others, span⟩ :=
      DiceSpan.of_append (Dice.not_mem_of_parse reads (by decide) (by decide)) span
    exact unspanned _ _ _ ((span.append blockText).append formula)
  have trimmed := Text.trimmed_of_visible (List.append_ne_nil_of_left_ne_nil nonempty tail) visible
  rw [extract_of_goesOn trimmed (head?_append_ne nonempty unopened tail)
    (fun chain => single ⟨wider chain.1, wider chain.2⟩) unbracketed
      (Reader.goesOn_of_visible visible), CriticalBlock.findAll_behind unopened]

/-- A block behind dice is reported and left out, whatever the shape of the line. A line that is
neither a chain nor a roll in brackets, and whose words go on, differs in nothing else from the line
without the block. -/
theorem extract_inline_block (split : line = formula ++ (blockText ++ tail))
    (solid : ∀ c ∈ formula, isBlank c = false) (reads : Dice.parse formula = .ok dice)
    (whole : CriticalBlock.reader blockText = some (block, []))
    (joined : ∀ c ∈ tail, isBlank c = false) :
    (extract line).blocks = { block with value := block.value.trim } :: CriticalBlock.findAll tail ∧
      CriticalBlock.strip line = formula ++ CriticalBlock.strip tail ∧
      (CriticalBlock.findAll tail = [] → CriticalBlock.strip tail = tail) ∧
      ('&' ∈ line ∧ ';' ∈ line →
        (extract line).shape = .chained ∧ (extract line).formula = line ∧
          (extract line).comment = none) ∧
      (¬('&' ∈ line ∧ ';' ∈ line) → (∀ before inner after, ¬ DiceSpan line before inner after) →
        Reader.goesOn line.words.tail = true →
        extract line = ⟨.plain, line, none, (extract line).blocks,
          (extract (formula ++ tail)).hasDice⟩ ∧
        extract (formula ++ tail) =
          ⟨.plain, formula ++ tail, none, CriticalBlock.findAll tail,
            hasDiceToken (formula ++ tail)⟩) := by
  have unopened : '\x7b' ∉ formula := Dice.not_mem_of_parse reads (by decide) (by decide)
  have nonempty : formula ≠ [] := Dice.ne_nil_of_parse reads
  have trimmed : line.Trimmed := by
    rw [split]
    exact trimmed_between (Text.trimmed_of_visible nonempty solid) whole joined
  have same := trimmed.trim
  have found : CriticalBlock.findAll line =
      { block with value := block.value.trim } :: CriticalBlock.findAll tail := by
    rw [split, CriticalBlock.findAll_between unopened whole]
  have stripped : CriticalBlock.strip line = formula ++ CriticalBlock.strip tail := by
    rw [split, CriticalBlock.strip_between unopened whole]
  have blocks : (extract line).blocks = CriticalBlock.findAll line := by rw [extract_blocks, same]
  refine ⟨by rw [blocks, found], stripped, CriticalBlock.strip_of_findAll_eq_nil, fun chain => ?_,
    fun single unspanned goes => ?_⟩
  · rw [← same] at chain
    rw [extract_chained chain, same]
    exact ⟨rfl, rfl, rfl⟩
  · have without := extract_without_block solid reads joined (split ▸ single) (split ▸ unspanned)
    have front : line.head? ≠ some '\x7b' := split ▸ head?_append_ne nonempty unopened _
    have result := extract_of_goesOn trimmed front single (bracketRoll?_of_unspanned unspanned) goes
    have dice : hasDiceToken line = hasDiceToken (formula ++ tail) := by
      apply hasDiceToken_of_strip
      rw [stripped, CriticalBlock.strip_behind unopened]
    refine ⟨?_, without⟩
    rw [without, blocks, result, dice]

end Between

def blockLine : Text := ['1', 'd', '2', '0'] ++
  (['\x7b', 'c', 's', ':', '>', '=', '1', '8', ' ', '+', '1', '\x7d'] ++ ['>', '=', '9'])

theorem extract_inline_block_summed :
    Dice.parse ['1', 'd', '2', '0'] = .ok ⟨1, 20, []⟩ ∧
      extract blockLine = ⟨.plain, blockLine, none,
        [⟨.success, .atLeast, ['1', '8', ' ', '+', '1'], true⟩], true⟩ ∧
      CriticalBlock.strip blockLine = ['1', 'd', '2', '0', '>', '=', '9'] ∧
      extract ['1', 'd', '2', '0', '>', '=', '9'] =
        ⟨.plain, ['1', 'd', '2', '0', '>', '=', '9'], none, [], true⟩ := by
  have reads : Dice.parse ['1', 'd', '2', '0'] = .ok ⟨1, 20, []⟩ := rfl
  have whole :
      CriticalBlock.reader ['\x7b', 'c', 's', ':', '>', '=', '1', '8', ' ', '+', '1', '\x7d'] =
      some (⟨.success, .atLeast, ['1', '8', ' ', '+', '1'], true⟩, []) := by decide
  have split : blockLine = _ ++ (_ ++ ['>', '=', '9']) := rfl
  obtain ⟨blocks, stripped, _, _, plain⟩ :=
    extract_inline_block split (by simp [isBlank]) reads whole (by simp [isBlank])
  have unspanned : ∀ before inner after, ¬ DiceSpan blockLine before inner after :=
    fun _ _ _ span =>
    absurd span.mem (by decide)
  obtain ⟨kept, without⟩ := plain (by decide) unspanned (by decide)
  exact ⟨reads, kept.trans (by rw [blocks, without]; decide +kernel),
    stripped.trans (by decide +kernel), without⟩

/-- Dice in brackets come first, wherever they stand. -/
theorem extract_block_bracketed :
    Dice.parse ['1', 'd', '2', '0'] = .ok ⟨1, 20, []⟩ ∧
      CriticalBlock.reader ['\x7b', 'c', 's', ':', '>', '=', '[', '1', 'd', '6', ']', '\x7d'] =
        some (⟨.success, .atLeast, ['[', '1', 'd', '6', ']'], true⟩, []) ∧
      (extract (['1', 'd', '2', '0'] ++
        (['\x7b', 'c', 's', ':', '>', '=', '[', '1', 'd', '6', ']', '\x7d'] ++ []))).shape =
          .bracketed :=
  ⟨rfl, by decide, by decide +kernel⟩

theorem diceTerm_cons_digit {c : Char} (digit : isDecimalDigit c = true) (text : Text) :
    diceTerm (c :: text) = diceTerm text := by
  simp only [diceTerm, List.dropWhile_cons_of_pos digit]

theorem SidesTerm.head {sides : Text} {n : UInt8} (sided : SidesTerm sides n) :
    ∃ c cs, sides = c :: cs ∧ isCaseless c = true ∧ (c = '%' ∨ isDecimalDigit c = true) := by
  cases sided with
  | percent => exact ⟨'%', [], rfl, by decide, .inl rfl⟩
  | number small =>
    obtain ⟨c, cs, rfl⟩ := List.exists_cons_of_ne_nil small.1.ne_nil
    obtain ⟨_, _, caseless, decimal⟩ := digit_facts (small.1.isDigit c List.mem_cons_self)
    exact ⟨c, cs, rfl, caseless, .inr decimal⟩

theorem diceTerm_of_lower {count sides more text : Text} {n : UInt8}
    (digits : ∀ c ∈ count, c.isDigit = true) (sided : SidesTerm sides n)
    (lower : text.flatMap lowerChar = count ++ 'd' :: (sides ++ more)) (rest : Text) :
    (diceTerm (text ++ rest)).isSome = true := by
  induction count generalizing text with
  | nil =>
    obtain ⟨k, ks, rfl, caseless, mark⟩ := sided.head
    obtain ⟨c, text, rfl, letter, behind⟩ := Text.exists_letter_of_flatMap_lowerChar lower
    obtain ⟨text, rfl, _⟩ := Text.exists_cons_of_flatMap_lowerChar caseless behind
    have first : isDecimalDigit c = false := by rcases letter with rfl | rfl <;> decide
    rcases mark with rfl | decimal
    · simp [diceTerm, first, letter]
    · have other : k ≠ '%' := by
        rintro rfl
        cases decimal
      simp [diceTerm, first, letter, decimal]
  | cons c count ih =>
    obtain ⟨_, _, caseless, decimal⟩ := digit_facts (digits c List.mem_cons_self)
    obtain ⟨text, rfl, behind⟩ := Text.exists_cons_of_flatMap_lowerChar caseless lower
    rw [List.cons_append, diceTerm_cons_digit decimal]
    exact ih (fun d member => digits d (List.mem_cons_of_mem c member)) behind

theorem Dice.diceTerm_of_parse {text : Text} {dice : Dice} (reads : Dice.parse text = .ok dice)
    (solid : ∀ c ∈ text, isBlank c = false) (rest : Text) :
    (diceTerm (text ++ rest)).isSome = true := by
  have inside := (DiceExpr.sentence_of_parse (Dice.parse_expression reads)).exprChars
  have trimmed := Text.trimmed_of_visible (Dice.ne_nil_of_parse reads) solid
  obtain ⟨core, term, spaced⟩ := Dice.parse_eq_ok_iff_term.mp reads
  rw [Text.lowercase_eq_flatMap inside] at spaced
  have same := spaced.trim term.trimmed
  rw [trimmed.lower.trim] at same
  cases term with
  | mk counted sided _ => exact diceTerm_of_lower counted.isDigit sided same rest

section Torn

variable {formula start between rest blockText tail : Text} {c : Char} {dice : Dice}
  {block : CriticalBlock}

/-- A block behind dice is torn at a blank, unless an operator or a brace stands behind the blank.
The block is still found, but its end becomes the comment. -/
theorem extract_torn_block (split : blockText = start ++ (between ++ c :: rest))
    (solid : ∀ d ∈ formula, isBlank d = false) (reads : Dice.parse formula = .ok dice)
    (whole : CriticalBlock.reader blockText = some (block, []))
    (joined : ∀ d ∈ tail, isBlank d = false) (visible : ∀ d ∈ start, isBlank d = false)
    (apart : between ≠ []) (blank : between.allBlank = true) (seen : isBlank c = false)
    (unjoined : Reader.isJoint c = false) (other : c ≠ '\x7b')
    (single : ¬('&' ∈ formula ++ (blockText ++ tail) ∧ ';' ∈ formula ++ (blockText ++ tail)))
    (unspanned : ∀ before inner after,
      ¬ DiceSpan (formula ++ (blockText ++ tail)) before inner after) :
    extract (formula ++ (blockText ++ tail)) =
      ⟨.plain, formula ++ start, some (c :: (rest ++ tail)),
        { block with value := block.value.trim } :: CriticalBlock.findAll tail, true⟩ := by
  have unopened : '\x7b' ∉ formula := Dice.not_mem_of_parse reads (by decide) (by decide)
  have nonempty : formula ≠ [] := Dice.ne_nil_of_parse reads
  have trimmed := trimmed_between (Text.trimmed_of_visible nonempty solid) whole joined
  have blocks := CriticalBlock.findAll_between unopened whole tail
  have line :
      formula ++ (blockText ++ tail) = formula ++ start ++ (between ++ c :: (rest ++ tail)) := by
    simp [split]
  have token : leadingToken? (formula ++ (blockText ++ tail)) =
      some (formula ++ start, some (c :: (rest ++ tail))) := by
    rw [line] at trimmed ⊢
    exact leadingToken?_of_unjoined trimmed (List.append_ne_nil_of_left_ne_nil nonempty start)
      (List.forall_mem_append.mpr ⟨solid, visible⟩) (head?_append_ne nonempty unopened start)
      apart blank seen unjoined other
  have unclosed : '\x7d' ∉ start := fun closed => by
    rw [split, CriticalBlock.reader_append closed] at whole
    obtain ⟨reading, _, same⟩ := Option.map_eq_some_iff.mp whole
    simp at same
  have tells : hasDiceToken (formula ++ start) = true := by
    have bare : '\x7d' ∉ formula ++ start := fun member => by
      rcases List.mem_append.mp member with member | member
      · exact Dice.not_mem_of_parse reads (by decide) (by decide) member
      · exact unclosed member
    rw [hasDiceToken_eq, CriticalBlock.strip_of_not_mem bare, tellsDice, holdsDiceTerm,
      Dice.diceTerm_of_parse reads solid]
    rfl
  have same := trimmed.trim
  have unbracketed := bracketRoll?_of_unspanned unspanned
  have parts : (leadingToken? (formula ++ (blockText ++ tail))).getD
      (formula ++ (blockText ++ tail), none) = (formula ++ start, some (c :: (rest ++ tail))) := by
    rw [token]
    rfl
  rw [← same] at single unbracketed parts
  rw [extract_token single unbracketed parts, same, blocks, tells]
  simp [nonempty]

example : extract ['1', 'd', '2', '0', '\x7b', 'c', 's', ':', '>', '=', ' ', '1', '9', '\x7d'] =
    ⟨.plain, ['1', 'd', '2', '0', '\x7b', 'c', 's', ':', '>', '='], some ['1', '9', '\x7d'],
      [⟨.success, .atLeast, ['1', '9'], true⟩], true⟩ := by
  decide +kernel

end Torn

end Tabletop
