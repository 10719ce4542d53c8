import Tabletop.Proofs.Reading.Numerals

/-! Modifiers and dice terms. A modifier is read to its end when no digit follows it and no letter
that would go on its word; among modifiers only a second `r` could do that, and the longest modifier
has it. -/
namespace Tabletop

theorem OptionalNumber.head_ne {number rest : Text} {n : Option UInt8} {c : Char}
    (valid : OptionalNumber number n) (letter : c.isDigit = false)
    (next : number = [] → rest.head? ≠ some c) : (number ++ rest).head? ≠ some c := by
  cases valid with
  | absent => exact next rfl
  | present valid =>
    intro first
    cases number with
    | nil => exact valid.1.ne_nil rfl
    | cons d ds =>
      have digit : d.isDigit = true := valid.1.isDigit d List.mem_cons_self
      cases Option.some.inj first
      rw [letter] at digit
      contradiction

def modifierWords : List Text :=
  [['m', 'i', 'n'], ['m', 'a', 'x'], ['r'], ['r', 'r'], ['x'], ['x', 'o'], ['k', 'l'], ['k'],
    ['k', 'h']]

def modifierLetters : List Char := ['m', 'r', 'x', 'k']

theorem OptionalNumber.isDigit {number : Text} {n : Option UInt8}
    (valid : OptionalNumber number n) : ∀ d ∈ number, d.isDigit = true := by
  cases valid with
  | absent => exact fun d member => absurd member List.not_mem_nil
  | present valid => exact valid.1.isDigit

theorem ModifierTerm.word_number {text : Text} {m : Modifier} (term : ModifierTerm text m) :
    ∃ word ∈ modifierWords, ∃ number, text = word ++ number ∧ ∀ d ∈ number, d.isDigit = true := by
  cases term with
  | minimum valid => exact ⟨['m', 'i', 'n'], by decide, _, rfl, valid.1.isDigit⟩
  | maximum valid => exact ⟨['m', 'a', 'x'], by decide, _, rfl, valid.1.isDigit⟩
  | reroll valid => exact ⟨['r'], by decide, _, rfl, valid.isDigit⟩
  | rerollAll valid => exact ⟨['r', 'r'], by decide, _, rfl, valid.isDigit⟩
  | explode valid => exact ⟨['x'], by decide, _, rfl, valid.isDigit⟩
  | explodeOnce valid => exact ⟨['x', 'o'], by decide, _, rfl, valid.isDigit⟩
  | keepLow valid => exact ⟨['k', 'l'], by decide, _, rfl, valid.isDigit⟩
  | keepHigh valid => exact ⟨['k'], by decide, _, rfl, valid.isDigit⟩
  | keepHighest valid => exact ⟨['k', 'h'], by decide, _, rfl, valid.isDigit⟩

theorem ModifierTerm.head {text : Text} {m : Modifier} (term : ModifierTerm text m) :
    ∃ c ∈ modifierLetters, text.head? = some c := by
  cases term
  all_goals exact ⟨_, by decide, rfl⟩

theorem ModifierTerms.head {text : Text} {ms : List Modifier} (terms : ModifierTerms text ms) :
    text = [] ∨ ∃ c ∈ modifierLetters, text.head? = some c := by
  cases terms with
  | nil => exact .inl rfl
  | cons term _ _ =>
    obtain ⟨c, letter, first⟩ := term.head
    exact .inr ⟨c, letter, by simp [first]⟩

theorem modifierWords_letters : ∀ word ∈ modifierWords, ∀ c ∈ word, c.isDigit = false := by
  simp [modifierWords]

theorem modifierLetters_facts : ∀ c ∈ modifierLetters,
    c.isDigit = false ∧ c ≠ 'l' ∧ c ≠ 'h' ∧ c ≠ 'o' := by
  simp [modifierLetters]

theorem modifierLetters_alpha : ∀ c ∈ modifierLetters, c.isAlpha = true := by
  simp [modifierLetters]

theorem modifierWords_extended :
    ∀ short ∈ modifierWords, ∀ c ∈ modifierLetters, ∀ long ∈ modifierWords,
    short ++ [c] <+: long → short = ['r'] ∧ c = 'r' := by
  simp [modifierWords, modifierLetters]

/-- Only a lone `r` becomes a longer modifier by a letter that modifiers start with. -/
theorem ModifierTerm.extended {part more : Text} {c : Char} {m other : Modifier}
    (short : ModifierTerm part m) (letter : c ∈ modifierLetters)
    (long : ModifierTerm (part ++ c :: more) other) : part = ['r'] ∧ c = 'r' := by
  have noDigit := modifierLetters_facts c letter
  obtain ⟨word, known, number, rfl, digits⟩ := short.word_number
  obtain ⟨longer, knownLonger, last, same, lastDigits⟩ := long.word_number
  have starts : (word ++ number) ++ [c] <+: longer := by
    have same : ((word ++ number) ++ [c]) ++ more = longer ++ last := by simpa using same
    rcases List.append_eq_append_iff.mp same with ⟨rest, split, _⟩ | ⟨rest, split, tail⟩
    · exact ⟨rest, split.symm⟩
    · rcases List.eq_nil_or_concat rest with rfl | ⟨front, d, rfl⟩
      · exact ⟨[], by simpa using split⟩
      · have same : c = d := by
          rw [List.concat_eq_append, ← List.append_assoc] at split
          exact List.singleton_inj.mp (List.append_inj_right' split rfl)
        have digit : c.isDigit = true := lastDigits c (by simp [tail, same])
        rw [noDigit.1] at digit
        contradiction
  have empty : number = [] := by
    cases number with
    | nil => rfl
    | cons d ds =>
      have digit : d.isDigit = true := digits d List.mem_cons_self
      have inWord : d ∈ longer := starts.subset (by simp)
      rw [modifierWords_letters longer knownLonger d inWord] at digit
      contradiction
  subst empty
  rw [List.append_nil] at starts ⊢
  exact modifierWords_extended word known c letter longer knownLonger starts

theorem ModifierTerms.head_ne {text rest : Text} {ms : List Modifier}
    (terms : ModifierTerms text ms)
    (apart : Apart rest) {c : Char} (other : c ∉ modifierLetters) (alphanum : c.isAlphanum = true) :
    (text ++ rest).head? ≠ some c := by
  intro first
  rcases terms.head with rfl | ⟨d, letter, same⟩
  · rw [apart c first] at alphanum
    contradiction
  · rw [List.head?_append, same] at first
    exact other (Option.some.inj first ▸ letter)

theorem ModifierTerms.noDigit_append {text rest : Text} {ms : List Modifier}
    (terms : ModifierTerms text ms) (apart : Apart rest) : NoDigit (text ++ rest) := by
  intro c first
  by_contra digit
  have digit : c.isDigit = true := by simpa using digit
  refine terms.head_ne apart ?_ (by simp [Char.isAlphanum, digit]) first
  intro letter
  rw [(modifierLetters_facts c letter).1] at digit
  contradiction

theorem LongestModifier.of_single {part others : Text} {m : Modifier} {ms : List Modifier}
    (term : ModifierTerm part m) (terms : ModifierTerms others ms)
    (single : part = ['r'] → others.head? ≠ some 'r') : LongestModifier part (part ++ others) := by
  intro other longer valid starts
  by_contra exceeds
  obtain ⟨more, rfl⟩ :=
    List.prefix_of_prefix_length_le (List.prefix_append part others) starts (by omega)
  have follows : more <+: others := (List.prefix_append_right_inj part).mp starts
  cases more with
  | nil => simp at exceeds
  | cons c cs =>
    have first : others.head? = some c := by
      obtain ⟨rest, rfl⟩ := follows
      rfl
    rcases terms.head with rfl | ⟨d, letter, same⟩
    · contradiction
    · have letter : c ∈ modifierLetters := Option.some.inj (first.symm.trans same) ▸ letter
      obtain ⟨lone, rfl⟩ := term.extended letter valid
      exact single lone first

theorem LongestModifier.single {others : Text} (longest : LongestModifier ['r'] (['r'] ++ others)) :
    others.head? ≠ some 'r' := by
  intro second
  cases others with
  | nil => contradiction
  | cons c cs =>
    cases Option.some.inj second
    have two : ['r', 'r'] <+: ['r'] ++ 'r' :: cs := ⟨cs, rfl⟩
    exact absurd (longest ['r', 'r'] _ (.rerollAll .absent) two) (by decide)

namespace Reader

theorem wordThenNumber_sound {expected text rest : Text} {build : UInt8 → Modifier} {m : Modifier}
    (reads : wordThenNumber expected build text = some (m, rest)) :
    ∃ number n, SmallNumber number n ∧ build n = m ∧ text = expected ++ (number ++ rest) := by
  simp only [wordThenNumber, Option.bind_eq_bind, Option.bind_eq_some_iff, Prod.exists] at reads
  obtain ⟨u, after, found, reads⟩ := reads
  obtain ⟨n, reads, same⟩ := map_eq_some_iff.mp reads
  obtain ⟨number, valid, rfl⟩ := smallNumber_sound reads
  exact ⟨number, n, valid, same, word_eq_some_iff.mp found⟩

theorem wordThenNumber_append {expected number rest : Text} {build : UInt8 → Modifier} {n : UInt8}
    (valid : SmallNumber number n) (stop : NoDigit rest) :
    wordThenNumber expected build (expected ++ (number ++ rest)) = some (build n, rest) := by
  have starts : word expected (expected ++ (number ++ rest)) = some ((), number ++ rest) :=
    word_eq_some_iff.mpr rfl
  simp only [wordThenNumber, starts, Option.bind_eq_bind, Option.bind_some]
  exact map_eq_some_iff.mpr ⟨n, smallNumber_append valid stop, rfl⟩

def lettersThenNumber (first second : Char) (build : Option Unit → Option UInt8 → Modifier) :
    Reader Modifier := fun text => do
  let (_, rest) ← char first text
  let (again, rest) := optional (char second) rest
  let (value, rest) := optional smallNumber rest
  some (build again value, rest)

theorem reroll_eq : reroll =
    lettersThenNumber 'r' 'r' fun again n => .reroll (.atMost (n.getD 1)) again.isSome := rfl

theorem explode_eq : explode =
    lettersThenNumber 'x' 'o' fun once n => .explode (n.map .atLeast) once.isNone := rfl

theorem keepHigh_eq : keepHigh = lettersThenNumber 'k' 'h' fun _ n => .keepHigh (n.getD 1) := rfl

section Letters

variable {first second : Char} {build : Option Unit → Option UInt8 → Modifier}

theorem lettersThenNumber_long (rest : Text) :
    lettersThenNumber first second build (first :: second :: rest) =
      some (build (some ()) (optional smallNumber rest).1, (optional smallNumber rest).2) := by
  have again := optional_of_some (char_self second rest)
  simp only [lettersThenNumber, char_self, Option.bind_eq_bind, Option.bind_some, again]

theorem lettersThenNumber_short {rest : Text} (single : rest.head? ≠ some second) :
    lettersThenNumber first second build (first :: rest) =
      some (build none (optional smallNumber rest).1, (optional smallNumber rest).2) := by
  have none := optional_of_none (char_eq_none_iff.mpr single)
  simp only [lettersThenNumber, char_self, Option.bind_eq_bind, Option.bind_some, none]

theorem lettersThenNumber_sound {text rest : Text} {m : Modifier}
    (reads : lettersThenNumber first second build text = some (m, rest)) :
    ∃ number n, OptionalNumber number n ∧
      ((build (some ()) n = m ∧ text = first :: second :: (number ++ rest)) ∨
        (build none n = m ∧ text = first :: (number ++ rest) ∧
          (number ++ rest).head? ≠ some second)) := by
  have started := reads
  simp only [lettersThenNumber, Option.bind_eq_bind, Option.bind_eq_some_iff,
    Prod.exists] at started
  obtain ⟨u, after, start, _⟩ := started
  cases char_eq_some_iff.mp start
  by_cases single : after.head? = some second
  · obtain ⟨tail, rfl⟩ : ∃ tail, after = second :: tail := by
      cases after with
      | nil => contradiction
      | cons c cs => exact ⟨cs, congrArg (· :: cs) (Option.some.inj single)⟩
    rw [lettersThenNumber_long] at reads
    cases reads
    obtain ⟨number, valid, same⟩ := optionalNumber_sound tail
    exact ⟨number, _, valid, .inl ⟨rfl, by rw [← same]⟩⟩
  · rw [lettersThenNumber_short single] at reads
    cases reads
    obtain ⟨number, valid, same⟩ := optionalNumber_sound after
    exact ⟨number, _, valid, .inr ⟨rfl, by rw [← same], by rw [← same]; exact single⟩⟩

theorem lettersThenNumber_append_long {number rest : Text} {n : Option UInt8}
    (valid : OptionalNumber number n) (stop : NoDigit rest) :
    lettersThenNumber first second build (first :: second :: (number ++ rest)) =
      some (build (some ()) n, rest) := by
  rw [lettersThenNumber_long, optionalNumber_append valid stop]

theorem lettersThenNumber_append_short {number rest : Text} {n : Option UInt8}
    (valid : OptionalNumber number n) (stop : NoDigit rest) (letter : second.isDigit = false)
    (next : number = [] → rest.head? ≠ some second) :
    lettersThenNumber first second build (first :: (number ++ rest)) =
      some (build none n, rest) := by
  rw [lettersThenNumber_short (valid.head_ne letter next), optionalNumber_append valid stop]

end Letters

theorem keepLow_sound {text rest : Text} {m : Modifier} (reads : keepLow text = some (m, rest)) :
    ∃ number n, OptionalNumber number n ∧ .keepLow (n.getD 1) = m ∧
      text = 'k' :: 'l' :: (number ++ rest) := by
  simp only [keepLow, Option.bind_eq_bind, Option.bind_eq_some_iff, Prod.exists] at reads
  obtain ⟨u, after, start, reads⟩ := reads
  cases word_eq_some_iff.mp start
  cases reads
  obtain ⟨number, valid, same⟩ := optionalNumber_sound after
  exact ⟨number, _, valid, rfl, congrArg ('k' :: 'l' :: ·) same⟩

theorem keepLow_append {number rest : Text} {n : Option UInt8} (valid : OptionalNumber number n)
    (stop : NoDigit rest) :
    keepLow ('k' :: 'l' :: (number ++ rest)) = some (.keepLow (n.getD 1), rest) := by
  have starts : word ['k', 'l'] ('k' :: 'l' :: (number ++ rest)) = some ((), number ++ rest) :=
    word_eq_some_iff.mpr rfl
  simp only [keepLow, starts, Option.bind_eq_bind, Option.bind_some,
    optionalNumber_append valid stop]

theorem keepLow_of_ne {rest : Text} (other : rest.head? ≠ some 'l') :
    keepLow ('k' :: rest) = none := by
  cases rest with
  | nil => rfl
  | cons c cs =>
    have different : 'l' ≠ c := fun same => other (congrArg some same.symm)
    simp [keepLow, word, Text.after?, different]

theorem modifier_sound {text rest : Text} {m : Modifier} (reads : modifier text = some (m, rest)) :
    ∃ part, ModifierTerm part m ∧ text = part ++ rest ∧ (part = ['r'] → rest.head? ≠ some 'r') := by
  simp only [modifier, or_eq_some_iff] at reads
  rcases reads with reads | ⟨_, reads | ⟨_, reads | ⟨_, reads | ⟨_, reads | ⟨_, reads⟩⟩⟩⟩⟩
  · obtain ⟨number, n, valid, rfl, rfl⟩ := wordThenNumber_sound reads
    exact ⟨_, .minimum valid, rfl, by simp⟩
  · obtain ⟨number, n, valid, rfl, rfl⟩ := wordThenNumber_sound reads
    exact ⟨_, .maximum valid, rfl, by simp⟩
  · rw [reroll_eq] at reads
    obtain ⟨number, n, valid, ⟨rfl, rfl⟩ | ⟨rfl, rfl, single⟩⟩ := lettersThenNumber_sound reads
    · exact ⟨_, .rerollAll valid, rfl, by simp⟩
    · refine ⟨_, .reroll valid, rfl, ?_⟩
      intro lone
      cases (List.cons.inj lone).2
      exact single
  · rw [explode_eq] at reads
    obtain ⟨number, n, valid, ⟨rfl, rfl⟩ | ⟨rfl, rfl, _⟩⟩ := lettersThenNumber_sound reads
    · exact ⟨_, .explodeOnce valid, rfl, by simp⟩
    · exact ⟨_, .explode valid, rfl, by simp⟩
  · obtain ⟨number, n, valid, rfl, rfl⟩ := keepLow_sound reads
    exact ⟨_, .keepLow valid, rfl, by simp⟩
  · rw [keepHigh_eq] at reads
    obtain ⟨number, n, valid, ⟨rfl, rfl⟩ | ⟨rfl, rfl, _⟩⟩ := lettersThenNumber_sound reads
    · exact ⟨_, .keepHighest valid, rfl, by simp⟩
    · exact ⟨_, .keepHigh valid, rfl, by simp⟩

theorem modifier_append {part rest : Text} {m : Modifier} (term : ModifierTerm part m)
    (stop : NoDigit rest) (notO : rest.head? ≠ some 'o') (notL : rest.head? ≠ some 'l')
    (notH : rest.head? ≠ some 'h') (notR : part = ['r'] → rest.head? ≠ some 'r') :
    modifier (part ++ rest) = some (m, rest) := by
  cases term with
  | minimum valid => exact or_of_some (wordThenNumber_append valid stop)
  | maximum valid =>
    rw [modifier, or_of_none (by rfl)]
    exact or_of_some (wordThenNumber_append valid stop)
  | reroll valid =>
    rw [modifier, or_of_none (by rfl), or_of_none (by rfl), reroll_eq]
    exact or_of_some (lettersThenNumber_append_short valid stop (by decide) fun empty =>
      notR (empty ▸ rfl))
  | rerollAll valid =>
    rw [modifier, or_of_none (by rfl), or_of_none (by rfl), reroll_eq]
    exact or_of_some (lettersThenNumber_append_long valid stop)
  | explode valid =>
    rw [modifier, or_of_none (by rfl), or_of_none (by rfl), or_of_none (by rfl), explode_eq]
    exact or_of_some (lettersThenNumber_append_short valid stop (by decide) fun _ => notO)
  | explodeOnce valid =>
    rw [modifier, or_of_none (by rfl), or_of_none (by rfl), or_of_none (by rfl), explode_eq]
    exact or_of_some (lettersThenNumber_append_long valid stop)
  | keepLow valid =>
    rw [modifier, or_of_none (by rfl), or_of_none (by rfl), or_of_none (by rfl),
      or_of_none (by rfl)]
    exact or_of_some (keepLow_append valid stop)
  | keepHigh valid =>
    rw [modifier, or_of_none (by rfl), or_of_none (by rfl), or_of_none (by rfl),
      or_of_none (by rfl), List.cons_append,
      or_of_none (keepLow_of_ne (valid.head_ne (by decide) fun _ => notL)), keepHigh_eq]
    exact lettersThenNumber_append_short valid stop (by decide) fun _ => notH
  | keepHighest valid =>
    rw [modifier, or_of_none (by rfl), or_of_none (by rfl), or_of_none (by rfl),
      or_of_none (by rfl), or_of_none (by rfl), keepHigh_eq]
    exact lettersThenNumber_append_long valid stop

theorem modifier_shortens : Shortens modifier := by
  intro text m rest reads
  obtain ⟨part, term, rfl, _⟩ := modifier_sound reads
  obtain ⟨c, _, first⟩ := term.head
  cases part with
  | nil => contradiction
  | cons d ds =>
    simp only [List.cons_append, List.length_cons, List.length_append]
    omega

theorem modifier_of_apart {text : Text} (apart : Apart text) : modifier text = none := by
  cases found : modifier text with
  | none => rfl
  | some reading =>
    obtain ⟨part, term, same, _⟩ := modifier_sound found
    obtain ⟨c, letter, first⟩ := term.head
    have alpha : c.isAlpha = true := modifierLetters_alpha c letter
    exact absurd (by simp [same, first]) (apart.ne_of_alpha alpha)

theorem modifiers_sound (text : Text) :
    ∃ part, ModifierTerms part (repeated modifier text).1 ∧
      text = part ++ (repeated modifier text).2 := by
  induction text using modifier_shortens.induct with
  | step text ih =>
    cases found : modifier text with
    | none =>
      rw [repeated_of_none found]
      exact ⟨[], .nil, rfl⟩
    | some reading =>
      obtain ⟨m, rest⟩ := reading
      obtain ⟨part, term, same, single⟩ := modifier_sound found
      obtain ⟨others, terms, split⟩ := ih m rest found
      rw [repeated_of_some modifier_shortens found]
      refine ⟨part ++ others, .cons term ?_ terms, by rw [same, List.append_assoc, ← split]⟩
      apply LongestModifier.of_single term terms
      intro lone second
      refine single lone ?_
      rw [split, List.head?_append, second]
      rfl

theorem modifiers_append {part rest : Text} {ms : List Modifier} (terms : ModifierTerms part ms)
    (apart : Apart rest) : repeated modifier (part ++ rest) = (ms, rest) := by
  induction terms with
  | nil => exact repeated_of_none (modifier_of_apart apart)
  | @cons part others m ms term longest terms ih =>
    have stop := terms.noDigit_append apart
    have notO := terms.head_ne apart (c := 'o') (by decide) (by decide)
    have notL := terms.head_ne apart (c := 'l') (by decide) (by decide)
    have notH := terms.head_ne apart (c := 'h') (by decide) (by decide)
    have single : part = ['r'] → (others ++ rest).head? ≠ some 'r' := by
      rintro rfl second
      rcases terms.head with rfl | ⟨d, letter, same⟩
      · exact apart.ne_of_alpha (by decide) second
      · rw [List.head?_append, same] at second
        exact longest.single (same.trans second)
    have first := modifier_append term stop notO notL notH single
    rw [List.append_assoc, repeated_of_some modifier_shortens first, ih]

theorem dice_sound : Sound dice DiceTerm := by
  intro text d rest reads
  simp only [dice, Option.bind_eq_bind, Option.bind_eq_some_iff, Prod.exists, Option.some.injEq,
    Prod.mk.injEq] at reads
  obtain ⟨u, afterLetter, letter, n, afterSides, found, rfl, rfl⟩ := reads
  obtain ⟨count, counted, start⟩ := optionalNumber_sound text
  obtain ⟨part, sided, rfl⟩ := sides_sound found
  obtain ⟨modifiers, terms, split⟩ := modifiers_sound afterSides
  refine ⟨_, .mk counted sided terms, ?_⟩
  rw [char_eq_some_iff.mp letter] at start
  simp only [List.append_assoc, List.cons_append, ← split]
  exact start

theorem dice_append {part rest : Text} {d : Dice} (term : DiceTerm part d) (apart : Apart rest) :
    dice (part ++ rest) = some (d, rest) := by
  cases term with
  | @mk count sided modifiers n m ms counted sidesTerm terms =>
    have stop : NoDigit ('d' :: (sided ++ (modifiers ++ rest))) := by simp [NoDigit]
    have counts := optionalNumber_append counted stop
    have sidesRead := sides_append sidesTerm (terms.noDigit_append apart)
    simp only [dice, List.append_assoc, List.cons_append, counts, char_self, Option.bind_eq_bind,
      Option.bind_some, sidesRead, modifiers_append terms apart]

theorem dice_of_count {text : Text} (noLetter : (optional smallNumber text).2.head? ≠ some 'd') :
    dice text = none := by
  simp only [dice, char_eq_none_iff.mpr noLetter, Option.bind_eq_bind, Option.bind_none]

theorem dice_of_noDigit {text : Text} (stop : NoDigit text) (noLetter : text.head? ≠ some 'd') :
    dice text = none := by
  apply dice_of_count
  rw [optional_of_none (smallNumber_of_noDigit stop)]
  exact noLetter

theorem dice_of_numeral {numeral rest : Text} (valid : Numeral numeral) (apart : Apart rest) :
    dice (numeral ++ rest) = none := by
  apply dice_of_count
  cases found : smallNumber (numeral ++ rest) with
  | none =>
    rw [optional_of_none found]
    cases numeral with
    | nil => exact absurd rfl valid.ne_nil
    | cons c cs =>
      intro first
      cases Option.some.inj first
      exact absurd (valid.isDigit 'd' List.mem_cons_self) (by decide)
  | some reading =>
    rw [optional_of_some found]
    simp only [smallNumber, digits_append valid apart.noDigit, Option.bind_eq_bind,
      Option.bind_some] at found
    split at found
    · cases found
      exact apart.ne_of_alpha (by decide)
    · contradiction

end Reader
end Tabletop
