import Tabletop.Proofs.Reading.Expression

/-! The rules of the notation against its readers. A walk goes exactly as far as the reader takes a
text, whatever was found before, so it passes over the texts that are read and over no others. -/
namespace Tabletop

variable {α β : Type}

namespace Reader

def extent (reader : Reader α) : Text → Option Text := fun text => (reader text).map Prod.snd

theorem extent_map (f : α → β) (reader : Reader α) : (map f reader).extent = reader.extent := by
  funext text
  unfold extent map
  cases reader text <;> rfl

theorem extent_or (first second : Reader α) (text : Text) :
    (or first second).extent text = (first.extent text <|> second.extent text) := by
  unfold extent Reader.or
  cases first text <;> rfl

theorem extent_padded (reader : Reader α) (text : Text) :
    (padded reader).extent text = (reader.extent text.trimStart).map Text.trimStart := by
  unfold extent padded
  cases reader text.trimStart <;> rfl

theorem extent_word (c : Char) (cs text : Text) :
    (word (c :: cs)).extent text = ((char c).extent text).bind (word cs).extent := by
  cases text with
  | nil => rfl
  | cons d ds => by_cases same : c = d <;> simp [extent, word, char, Text.after?, same, eq_comm]

theorem extent_operator_nil (text : Text) : (operator []).extent text = none := by
  unfold operator
  rw [extent_padded]
  cases text.trimStart <;> rfl

theorem extent_operator_cons (op : Op) (ops : List Op) (text : Text) :
    (operator (op :: ops)).extent text =
      ((padded (char op.symbol)).extent text <|> (operator ops).extent text) := by
  unfold operator
  simp only [extent_padded]
  cases text.trimStart with
  | nil => rfl
  | cons c cs =>
    by_cases same : op.symbol = c
    · simp [extent, char, same]
    · simp [extent, char, same, Ne.symm same]

def extentUpTo (limit : Nat) (text : Text) : Option Text :=
  (digits text).bind fun (digits, rest) =>
    if Text.digitsValue digits ≤ limit then some rest else none

theorem extent_smallNumber : smallNumber.extent = extentUpTo 255 := by
  funext text
  unfold extent extentUpTo smallNumber
  cases digits text with
  | none => rfl
  | some reading =>
    dsimp only [Option.bind_eq_bind, Option.bind_some]
    split <;> rfl

theorem extent_number : number.extent = extentUpTo 2147483647 := by
  funext text
  unfold extent extentUpTo number
  cases digits text with
  | none => rfl
  | some reading =>
    dsimp only [Option.bind_eq_bind, Option.bind_some, Amount.ofInt?]
    by_cases fits : reading.1.digitsValue ≤ 2147483647
    · rw [dif_pos (by omega), if_pos fits]
      rfl
    · rw [dif_neg (by omega), if_neg fits]
      rfl

end Reader

namespace Rule

def symbolOf (ops : List Op) : Rule := anyOf (ops.map fun op => padded (char op.symbol))

theorem inOrder_cons (rule : Rule) {rules : List Rule} (more : rules ≠ []) :
    inOrder (rule :: rules) = seq rule (inOrder rules) := by
  cases rules with
  | nil => contradiction
  | cons => rfl

theorem symbolOf_cons (op next : Op) (ops : List Op) :
    symbolOf (op :: next :: ops) = choice (padded (char op.symbol)) (symbolOf (next :: ops)) := rfl

end Rule

namespace Walk

/-- Whatever was found before, the walk leaves of a text what is told. -/
def Covers (walk : Walk) (extent : Text → Option Text) : Prop :=
  ∀ text finding, (walk text finding).1 = extent text

variable {walk inner : Walk} {first second rule : Rule} {f g : Text → Option Text}

theorem Covers.of_eq (covers : walk.Covers f) (same : ∀ text, f text = g text) : walk.Covers g :=
  fun text finding => (covers text finding).trans (same text)

theorem covers_char (c : Char) : (ofRule inner (.char c)).Covers (Reader.char c).extent := by
  intro text finding
  cases text with
  | nil => rfl
  | cons d ds => by_cases same : d = c <;> simp [ofRule, char, Reader.char, Reader.extent, same]

theorem covers_number (name : Option Text) (limit : Nat) :
    (number name limit).Covers (Reader.extentUpTo limit) := by
  intro text finding
  unfold number Reader.extentUpTo
  cases reads : Reader.digits text with
  | none => rfl
  | some reading =>
    obtain ⟨digits, rest⟩ := reading
    dsimp only [Option.bind_some]
    cases (Reader.digits_sound reads).1 with
    | zero => rfl
    | @digits c cs positive _ =>
      have other : (c :: cs).head? ≠ some '0' := by simpa using positive
      rw [if_neg other]
      split <;> rfl

theorem Covers.seq (before : (ofRule inner first).Covers f)
    (after : (ofRule inner second).Covers g) :
    (ofRule inner (.seq first second)).Covers fun text => (f text).bind g := by
  intro text finding
  have step := before text finding
  dsimp only [ofRule]
  rw [← step]
  split
  · next rest later found =>
    rw [found]
    exact after rest later
  · next later found => rw [found]; rfl

theorem Covers.choice {one other : Reader α} (covers : (ofRule inner first).Covers one.extent)
    (covers' : (ofRule inner second).Covers other.extent) :
    (ofRule inner (.choice first second)).Covers (Reader.or one other).extent := by
  intro text finding
  have step := covers text finding
  dsimp only [ofRule]
  rw [Reader.extent_or, ← step]
  split
  · next rest later found => rw [found]; rfl
  · next later found =>
    rw [found]
    exact covers' text later

theorem Covers.optional {reader : Reader α} (covers : (ofRule inner rule).Covers reader.extent) :
    (ofRule inner (.optional rule)).Covers fun text => some (Reader.optional reader text).2 := by
  intro text finding
  have step := covers text finding
  dsimp only [ofRule]
  unfold Reader.optional
  unfold Reader.extent at step
  cases reads : reader text <;> rw [reads] at step
  · split
    · next found => rw [found] at step; cases step
    · rfl
  · split
    · next found => rw [found] at step; cases step; rfl
    · next found => rw [found] at step; cases step

theorem Covers.repeated {reader : Reader α} (covers : walk.Covers reader.extent)
    (shortens : reader.Shortens) (bound : Nat) :
    ∀ (text : Text) (finding : Finding), text.length < bound →
      (repeated walk bound text finding).1 = some (Reader.repeated reader text).2 := by
  -- Every reading shortens the text, so the bound is never met.
  induction bound with
  | zero => exact fun _ _ fits => absurd fits (Nat.not_lt_zero _)
  | succ bound ih =>
    intro text finding fits
    have step := covers text finding
    unfold Walk.repeated
    cases reads : reader text with
    | none =>
      simp only [Reader.extent, reads, Option.map_none] at step
      rw [Reader.repeated_of_none reads]
      split
      · next found => rw [found] at step; cases step
      · rfl
    | some reading =>
      have shorter := shortens text reading.1 reading.2 reads
      simp only [Reader.extent, reads, Option.map_some] at step
      rw [Reader.repeated_of_some shortens reads]
      split
      · next rest later found =>
        rw [found] at step
        cases step
        exact ih reading.2 later (by omega)
      · next found => rw [found] at step; cases step

theorem Covers.many {reader : Reader α} (covers : (ofRule inner rule).Covers reader.extent)
    (shortens : reader.Shortens) :
    (ofRule inner (.many rule)).Covers fun text => some (Reader.repeated reader text).2 :=
  fun text finding => covers.repeated shortens (text.length + 1) text finding (Nat.lt_succ_self _)

theorem Covers.padded {reader : Reader α} (covers : (ofRule inner rule).Covers reader.extent) :
    (ofRule inner (.padded rule)).Covers (Reader.padded reader).extent := by
  have blanks : (ofRule inner .blanks).Covers fun text => some text.trimStart := fun _ _ => rfl
  refine (blanks.seq (covers.seq blanks)).of_eq fun text => ?_
  rw [Reader.extent_padded, Option.map_eq_bind]
  rfl

section Notation

open Rule (inOrder anyOf small symbolOf)

theorem covers_small (name : Text) : (ofRule inner (small name)).Covers Reader.smallNumber.extent :=
  Reader.extent_smallNumber ▸ covers_number (some name) 255

theorem covers_amount : (ofRule inner (.number none 2147483647)).Covers Reader.number.extent :=
  Reader.extent_number ▸ covers_number none 2147483647

theorem Covers.behind_word (covers : (ofRule inner rule).Covers f) (word : Text) :
    (ofRule inner (inOrder (word.map .char ++ [rule]))).Covers fun text =>
      ((Reader.word word).extent text).bind f := by
  induction word with
  | nil => exact covers
  | cons c word ih =>
    rw [List.map_cons, List.cons_append, Rule.inOrder_cons _ (by simp)]
    refine ((covers_char c).seq ih).of_eq fun text => ?_
    rw [Reader.extent_word, Option.bind_assoc]

theorem covers_wordThenNumber (word name : Text) (build : UInt8 → Modifier) :
    (ofRule inner (inOrder (word.map .char ++ [small name]))).Covers
      (Reader.wordThenNumber word build).extent := by
  refine ((covers_small name).behind_word word).of_eq fun text => ?_
  simp only [Reader.wordThenNumber, Reader.extent, Reader.map, Option.map_eq_bind,
    Option.bind_eq_bind, Option.bind_assoc, Option.bind_some, Function.comp_def]

theorem covers_lettersThenNumber (letter again : Char) (name : Text)
    (build : Option Unit → Option UInt8 → Modifier) :
    (ofRule inner (inOrder [.char letter, .optional (.char again), .optional (small name)])).Covers
      (Reader.lettersThenNumber letter again build).extent := by
  refine ((covers_char letter).seq ((covers_char again).optional.seq
    (covers_small name).optional)).of_eq fun text => ?_
  simp only [Reader.lettersThenNumber, Reader.extent, Option.map_eq_bind, Option.bind_eq_bind,
    Option.bind_assoc, Option.bind_some, Function.comp_def]

theorem covers_keepLow (name : Text) :
    (ofRule inner (inOrder [.char 'k', .char 'l', .optional (small name)])).Covers
      Reader.keepLow.extent := by
  refine ((covers_small name).optional.behind_word ['k', 'l']).of_eq fun text => ?_
  simp only [Reader.keepLow, Reader.extent, Option.map_eq_bind, Option.bind_eq_bind,
    Option.bind_assoc, Option.bind_some, Function.comp_def]

theorem covers_modifier : (ofRule inner .modifier).Covers Reader.modifier.extent :=
  (covers_wordThenNumber ['m', 'i', 'n'] _ .minimum).choice <|
    (covers_wordThenNumber ['m', 'a', 'x'] _ .maximum).choice <|
    (covers_lettersThenNumber 'r' 'r' _
      fun again n => .reroll (.atMost (n.getD 1)) again.isSome).choice <|
    (covers_lettersThenNumber 'x' 'o' _
      fun once n => .explode (n.map .atLeast) once.isNone).choice <|
    (covers_keepLow _).choice <|
    covers_lettersThenNumber 'k' 'h' _ fun _ n => .keepHigh (n.getD 1)

theorem covers_sides :
    (ofRule inner (.choice (small "Dice sides") (.char '%'))).Covers Reader.sides.extent := by
  refine (covers_small _).choice ?_
  rw [Reader.extent_map]
  exact covers_char '%'

theorem covers_dice : (ofRule inner .dice).Covers Reader.dice.extent := by
  refine ((covers_small _).optional.seq ((covers_char 'd').seq (covers_sides.seq
    (covers_modifier.many Reader.modifier_shortens)))).of_eq fun text => ?_
  simp only [Reader.dice, Reader.extent, Option.map_eq_bind, Option.bind_eq_bind,
    Option.bind_assoc, Option.bind_some, Function.comp_def]

theorem covers_operator (op : Op) (ops : List Op) :
    (ofRule inner (symbolOf (op :: ops))).Covers (Reader.operator (op :: ops)).extent := by
  have symbol (op : Op) : (ofRule inner (.padded (.char op.symbol))).Covers
      (Reader.padded (Reader.char op.symbol)).extent := (covers_char op.symbol).padded
  induction ops generalizing op with
  | nil =>
    refine (symbol op).of_eq fun text => ?_
    rw [Reader.extent_operator_cons, Reader.extent_operator_nil]
    cases (Reader.padded (Reader.char op.symbol)).extent text <;> rfl
  | cons next ops ih =>
    have first := symbol op
    rw [← Reader.extent_map fun _ => op] at first
    rw [Rule.symbolOf_cons]
    refine (first.choice (ih next)).of_eq fun text => ?_
    rw [Reader.extent_or, Reader.extent_map, Reader.extent_operator_cons op]

section Levels

variable {reader operand : Reader DiceExpr} {language : Text → DiceExpr → Prop}

theorem covers_group (covers : inner.Covers reader.extent) :
    (ofRule inner (inOrder [.char '(', .inner, .char ')'])).Covers
      (Reader.parenthesised reader).extent := by
  have inside : (ofRule inner .inner).Covers reader.extent := covers
  refine ((covers_char '(').seq (inside.seq (covers_char ')'))).of_eq fun text => ?_
  simp only [Reader.parenthesised, Reader.extent, Option.map_eq_bind, Option.bind_eq_bind,
    Option.bind_assoc, Option.bind_some, Function.comp_def]

theorem covers_atom (covers : inner.Covers reader.extent) :
    (ofRule inner (.padded (anyOf [.dice, .number none 2147483647,
      inOrder [.char '(', .inner, .char ')']]))).Covers (Reader.atom reader).extent := by
  refine (Covers.choice ?_ (Covers.choice ?_ (covers_group covers))).padded
  · rw [Reader.extent_map]
    exact covers_dice
  · rw [Reader.extent_map]
    exact covers_amount

theorem covers_unary (covers : inner.Covers reader.extent) :
    (ofRule inner .unary).Covers (Reader.unary reader).extent := by
  refine (((covers_operator .sub [.add]).many (Reader.operator_shortens _)).seq
    (covers_atom covers)).of_eq fun text => ?_
  simp only [Reader.unary, Reader.extent, Option.map_eq_bind, Option.bind_eq_bind,
    Option.bind_assoc, Option.bind_some, Function.comp_def]

theorem covers_chain (op : Op) (ops : List Op) (sound : operand.Sound language)
    (covers : (ofRule inner rule).Covers operand.extent) :
    (ofRule inner (.seq rule (.many (.seq (symbolOf (op :: ops)) rule)))).Covers
      (Reader.chain (op :: ops) operand).extent := by
  have link : (ofRule inner (.seq (symbolOf (op :: ops)) rule)).Covers
      (Reader.chainLink (op :: ops) operand).extent := by
    refine ((covers_operator op ops).seq covers).of_eq fun text => ?_
    simp only [Reader.chainLink, Reader.extent, Reader.map, Option.map_eq_bind,
      Option.bind_eq_bind, Option.bind_assoc, Option.bind_some, Function.comp_def]
  refine (covers.seq (link.many (Reader.chainLink_shortens sound))).of_eq fun text => ?_
  dsimp only [Reader.chain, Reader.extent]
  cases operand text <;> rfl

end Levels

/-- The walk of an expression goes exactly as far as its reader. -/
theorem covers_expression (depth : Nat) :
    (expression depth).Covers (Reader.expression depth).extent := by
  induction depth with
  | zero => exact fun _ _ => rfl
  | succ depth ih =>
    have sound := Reader.expression_sound depth
    exact covers_chain .add [.sub] (Reader.product_sound sound)
      (covers_chain .mul [.divDown, .divUp] (Reader.unary_sound sound) (covers_unary ih))

end Notation

theorem Covers.finish {reader : Reader α} (covers : (ofRule inner rule).Covers reader.extent)
    (text : Text) (finding : Finding) :
    (ofRule inner (.seq rule .finish) text finding).1.isSome =
      (Reader.whole reader text).isSome := by
  have ends : (ofRule inner .finish).Covers fun text => if text.isEmpty then some [] else none := by
    intro text finding
    dsimp only [ofRule]
    split <;> rfl
  rw [covers.seq ends text finding]
  dsimp only [Reader.extent, Reader.whole]
  cases reader text with
  | none => rfl
  | some reading =>
    obtain ⟨value, rest⟩ := reading
    cases rest <;> rfl

end Walk

/-- Whether the walk that makes the complaint of the rule passes over the whole text. -/
def Rule.Passes (rule : Rule) (text : Text) : Prop :=
  (Walk.ofRule (Walk.expression text.length) (seq rule finish) text (.missing text [])).1.isSome

theorem DiceExpr.passes_iff_parse (text : Text) :
    Rule.expression.Passes text.lowercase ↔ ∃ e, DiceExpr.parse text = .ok e := by
  have same := (Walk.covers_expression (text.lowercase.length + 1)).finish text.lowercase
  simp only [parse_eq_ok_iff_parse?, ← Option.isSome_iff_exists, DiceExpr.parse?]
  rw [Rule.Passes, same]

theorem Dice.passes_iff_parse (text : Text) :
    (Rule.padded .dice).Passes text.lowercase ↔ ∃ d, Dice.parse text = .ok d := by
  simp only [parse_eq_ok_iff_parse?, ← Option.isSome_iff_exists, Dice.parse?]
  rw [Rule.Passes, Walk.covers_dice.padded.finish text.lowercase]

end Tabletop
