import Tabletop.Expr.Diagnosis
import Tabletop.Proofs.Reading.Blanks

/-! Whole expressions. The readers of all levels take first parts that are sentences, and take all
of a sentence when what follows cannot go on it. So a text is read as an expression exactly when it
is a sentence that denotes it. -/
namespace Tabletop

namespace Reader

theorem number_sound :
    Sound number fun core n => Numeral core ∧ (Text.digitsValue core : Int) = n.value := by
  intro text n rest reads
  simp only [number, Option.bind_eq_bind, Option.bind_eq_some_iff, Prod.exists,
    Option.map_eq_some_iff, Prod.mk.injEq] at reads
  obtain ⟨core, after, found, n, value, rfl, rfl⟩ := reads
  obtain ⟨numeral, rfl⟩ := digits_sound found
  exact ⟨core, ⟨numeral, (Amount.ofInt?_eq_some_iff.mp value).symm⟩, rfl⟩

theorem number_append {core rest : Text} {n : Amount} (numeral : Numeral core)
    (value : (Text.digitsValue core : Int) = n.value) (stop : NoDigit rest) :
    number (core ++ rest) = some (n, rest) := by
  simp only [number, digits_append numeral stop, Option.bind_eq_bind, Option.bind_some,
    Amount.ofInt?_eq_some_iff.mpr value.symm, Option.map_some]

section Levels

variable {inner : Reader DiceExpr}

theorem atom_sound (sound : Sound inner (Sentence .sum)) : Sound (atom inner) (Sentence .atom) := by
  intro text e rest reads
  have cores :
      Sound (Reader.or (map .leaf dice) (Reader.or (map .number number) (parenthesised inner)))
      fun core e => ∀ part, Spaced core part → Sentence .atom part e := by
    intro text e rest reads
    rcases or_eq_some_iff.mp reads with reads | ⟨_, reads⟩
    · obtain ⟨d, found, rfl⟩ := map_eq_some_iff.mp reads
      obtain ⟨core, term, rfl⟩ := dice_sound _ _ _ found
      exact ⟨core, fun part spaced => .dice term spaced, rfl⟩
    rcases or_eq_some_iff.mp reads with reads | ⟨_, reads⟩
    · obtain ⟨n, found, rfl⟩ := map_eq_some_iff.mp reads
      obtain ⟨core, ⟨numeral, value⟩, rfl⟩ := number_sound _ _ _ found
      exact ⟨core, fun part spaced => .number numeral value spaced, rfl⟩
    · simp only [parenthesised, Option.bind_eq_bind, Option.bind_eq_some_iff, Prod.exists,
        Option.some.injEq, Prod.mk.injEq] at reads
      obtain ⟨_, afterOpen, opened, value, afterInner, found, _, behind, closed, rfl, rfl⟩ := reads
      obtain ⟨part, sentence, rfl⟩ := sound _ _ _ found
      cases char_eq_some_iff.mp opened
      cases char_eq_some_iff.mp closed
      exact ⟨'(' :: (part ++ [')']), fun whole spaced => .group sentence spaced, by simp⟩
  obtain ⟨core, part, valid, spaced, same⟩ := padded_sound cores reads
  exact ⟨part, valid part spaced, same⟩

abbrev signOperators : List Op := [.sub, .add]

theorem unary_of_sign {text rest : Text} {sign : Op}
    (reads : operator signOperators text = some (sign, rest)) :
    unary inner text = (unary inner rest).map fun (e, after) => (signed sign e, after) := by
  simp only [unary, repeated_of_some (operator_shortens _) reads]
  cases atom inner (repeated (operator signOperators) rest).2 with
  | none => rfl
  | some reading => rfl

theorem unary_of_atom {text : Text} (noSign : operator signOperators text = none) :
    unary inner text = atom inner text := by
  simp only [unary, repeated_of_none noSign]
  cases atom inner text with
  | none => rfl
  | some reading => rfl

theorem unary_trimStart (text : Text) : unary inner text.trimStart = unary inner text := by
  have same : operator signOperators text.trimStart = operator signOperators text :=
    padded_trimStart _ _
  cases found : operator signOperators text with
  | none =>
    rw [unary_of_atom found, unary_of_atom (same.trans found)]
    exact padded_trimStart _ _
  | some reading =>
    obtain ⟨sign, rest⟩ := reading
    rw [unary_of_sign found, unary_of_sign (same.trans found)]

theorem unary_sound (sound : Sound inner (Sentence .sum)) :
    Sound (unary inner) (Sentence .unary) := by
  intro text
  induction text using (operator_shortens signOperators).induct with
  | step text ih =>
    intro e rest reads
    cases found : operator signOperators text with
    | none =>
      rw [unary_of_atom found] at reads
      obtain ⟨part, sentence, same⟩ := atom_sound sound _ _ _ reads
      exact ⟨part, .ofAtom sentence, same⟩
    | some reading =>
      obtain ⟨sign, after⟩ := reading
      rw [unary_of_sign found, Option.map_eq_some_iff] at reads
      obtain ⟨⟨e, after'⟩, reads, same⟩ := reads
      cases same
      obtain ⟨part, sentence, rfl⟩ := ih sign after found e rest reads
      obtain ⟨mid, ⟨known, spaced⟩, rfl⟩ := operator_sound _ _ _ _ found
      refine ⟨mid ++ part, ?_, (List.append_assoc _ _ _).symm⟩
      rcases List.mem_pair.mp known with rfl | rfl
      · exact .minus spaced sentence
      · exact .plus spaced sentence

end Levels

/-- A reading of operands and operators that groups from the left, and may stop before the last
one. -/
inductive ChainReads (ops : List Op) (operand : Reader DiceExpr) :
    Text → DiceExpr → Text → Prop where
  | first {text rest : Text} {e : DiceExpr} : operand text = some (e, rest) →
      ChainReads ops operand text e rest
  | next {text mid after rest : Text} {op : Op} {a b : DiceExpr} :
      ChainReads ops operand text a mid → operator ops mid = some (op, after) →
      operand after = some (b, rest) → ChainReads ops operand text (.binary op a b) rest

section Chains

variable {ops : List Op} {operand : Reader DiceExpr} {language : Text → DiceExpr → Prop}

def chainLink (ops : List Op) (operand : Reader DiceExpr) : Reader (Op × DiceExpr) := fun text => do
  let (op, rest) ← operator ops text
  map (op, ·) operand rest

theorem chainLink_eq_some_iff {text rest : Text} {op : Op} {b : DiceExpr} :
    chainLink ops operand text = some ((op, b), rest) ↔
      ∃ after, operator ops text = some (op, after) ∧ operand after = some (b, rest) := by
  simp only [chainLink, Option.bind_eq_bind, Option.bind_eq_some_iff, Prod.exists, map_eq_some_iff,
    Prod.mk.injEq]
  constructor
  · rintro ⟨op, after, found, b, reads, rfl, rfl⟩
    exact ⟨after, found, reads⟩
  · rintro ⟨after, found, reads⟩
    exact ⟨op, after, found, b, reads, rfl, rfl⟩

theorem chainLink_shortens (sound : Sound operand language) : Shortens (chainLink ops operand) := by
  intro text link rest reads
  obtain ⟨after, found, reads⟩ := chainLink_eq_some_iff.mp reads
  obtain ⟨part, _, rfl⟩ := sound _ _ _ reads
  have shorter := operator_shortens ops _ _ _ found
  rw [List.length_append] at shorter
  omega

def linked (e : DiceExpr) (links : List (Op × DiceExpr)) : DiceExpr :=
  links.foldl (fun e (op, operand) => .binary op e operand) e

theorem chain_of_first {text rest : Text} {e : DiceExpr} (reads : operand text = some (e, rest)) :
    chain ops operand text = some (linked e (repeated (chainLink ops operand) rest).1,
      (repeated (chainLink ops operand) rest).2) := by
  simp only [chain, reads, Option.bind_eq_bind, Option.bind_some]
  rfl

theorem ChainReads.chain {text rest : Text} {e : DiceExpr} (sound : Sound operand language)
    (reads : ChainReads ops operand text e rest) :
    chain ops operand text = some (linked e (repeated (chainLink ops operand) rest).1,
      (repeated (chainLink ops operand) rest).2) := by
  induction reads with
  | first reads => exact chain_of_first reads
  | next _ found reads ih =>
    have link := chainLink_eq_some_iff.mpr ⟨_, found, reads⟩
    rw [ih, repeated_of_some (chainLink_shortens sound) link]
    rfl

theorem ChainReads.chain_of_end {text rest : Text} {e : DiceExpr} (sound : Sound operand language)
    (reads : ChainReads ops operand text e rest) (done : operator ops rest = none) :
    Reader.chain ops operand text = some (e, rest) := by
  have none : chainLink ops operand rest = none := by
    simp only [chainLink, done, Option.bind_eq_bind, Option.bind_none]
  rw [reads.chain sound, repeated_of_none none]
  rfl

theorem ChainReads.links (sound : Sound operand language) {text : Text} (mid : Text) :
    ∀ {a : DiceExpr}, ChainReads ops operand text a mid →
      ChainReads ops operand text (linked a (repeated (chainLink ops operand) mid).1)
        (repeated (chainLink ops operand) mid).2 := by
  have shortens : Shortens (chainLink ops operand) := chainLink_shortens sound
  induction mid using shortens.induct with
  | step mid ih =>
    intro a reads
    cases found : chainLink ops operand mid with
    | none =>
      rw [repeated_of_none found]
      exact reads
    | some reading =>
      obtain ⟨⟨op, b⟩, rest⟩ := reading
      obtain ⟨after, sign, last⟩ := chainLink_eq_some_iff.mp found
      rw [repeated_of_some shortens found]
      exact ih _ _ found (reads.next sign last)

theorem chain_reads {text rest : Text} {e : DiceExpr} (sound : Sound operand language)
    (reads : chain ops operand text = some (e, rest)) : ChainReads ops operand text e rest := by
  have opened := reads
  simp only [chain, Option.bind_eq_bind, Option.bind_eq_some_iff, Prod.exists] at opened
  obtain ⟨first, after, found, _⟩ := opened
  rw [chain_of_first found] at reads
  cases reads
  exact (ChainReads.first found).links sound after

theorem ChainReads.sentence (sound : Sound operand language) {chained : Text → DiceExpr → Prop}
    (single : ∀ part e, language part e → chained part e)
    (link : ∀ left mid right op a b, chained left a → op ∈ ops → Spaced [op.symbol] mid →
      language right b → chained (left ++ (mid ++ right)) (.binary op a b))
    {text rest : Text} {e : DiceExpr} (reads : ChainReads ops operand text e rest) :
    ∃ part, chained part e ∧ text = part ++ rest := by
  induction reads with
  | first reads =>
    obtain ⟨part, valid, same⟩ := sound _ _ _ reads
    exact ⟨part, single part _ valid, same⟩
  | next _ sign reads ih =>
    obtain ⟨left, valid, rfl⟩ := ih
    obtain ⟨mid, ⟨known, spaced⟩, rfl⟩ := operator_sound _ _ _ _ sign
    obtain ⟨right, valid', rfl⟩ := sound _ _ _ reads
    exact ⟨_, link left mid right _ _ _ valid known spaced valid', by simp only [List.append_assoc]⟩

end Chains

abbrev factorOperators : List Op := [.mul, .divDown, .divUp]

abbrev termOperators : List Op := [.add, .sub]

theorem mem_factorOperators {op : Op} : op ∈ factorOperators ↔ op.isMultiplicative = true := by
  cases op <;> decide

theorem mem_termOperators {op : Op} : op ∈ termOperators ↔ op.isMultiplicative = false := by
  cases op <;> decide

section Levels

variable {inner : Reader DiceExpr}

theorem product_sound (sound : Sound inner (Sentence .sum)) :
    Sound (product inner) (Sentence .product) := by
  intro text e rest reads
  refine (chain_reads (unary_sound sound) reads).sentence (unary_sound sound)
    (fun _ _ => .ofUnary) ?_
  intro left mid right op a b first known spaced second
  exact .product first (mem_factorOperators.mp known) spaced second

theorem sum_sound (sound : Sound inner (Sentence .sum)) : Sound (sum inner) (Sentence .sum) := by
  intro text e rest reads
  refine (chain_reads (product_sound sound) reads).sentence (product_sound sound)
    (fun _ _ => .ofProduct) ?_
  intro left mid right op a b first known spaced second
  exact .sum first (mem_termOperators.mp known) spaced second

theorem expression_sound (depth : Nat) : Sound (expression depth) (Sentence .sum) := by
  induction depth with
  | zero =>
    intro text e rest reads
    contradiction
  | succ depth ih => exact sum_sound ih

theorem product_trimStart (text : Text) : product inner text.trimStart = product inner text := by
  simp only [product, chain, unary_trimStart]

end Levels

end Reader

theorem Numeral.head_facts {core : Text} (numeral : Numeral core) :
    ∃ c ∈ core.head?, isBlank c = false ∧ c.isAlphanum = true := by
  cases core with
  | nil => exact absurd rfl numeral.ne_nil
  | cons c cs =>
    have digit : c.isDigit = true := numeral.isDigit c List.mem_cons_self
    exact ⟨c, rfl, isBlank_of_isDigit digit, by simp [Char.isAlphanum, digit]⟩

theorem DiceTerm.head_facts {core : Text} {d : Dice} (term : DiceTerm core d) :
    ∃ c ∈ core.head?, isBlank c = false ∧ c.isAlphanum = true := by
  cases term with
  | mk counted sided terms =>
    cases counted with
    | absent => exact ⟨'d', rfl, by decide, by decide⟩
    | present number =>
      obtain ⟨c, first, facts⟩ := number.1.head_facts
      exact ⟨c, by rw [List.head?_append, first]; rfl, facts⟩

theorem Sentence.allBlank_eq_false {level : Level} {text : Text} {e : DiceExpr}
    (sentence : Sentence level text e) : text.allBlank = false := by
  induction sentence with
  | ofProduct _ ih | ofUnary _ ih | ofAtom _ ih => exact ih
  | sum _ _ _ _ left _ | product _ _ _ _ left _ =>
    apply Bool.eq_false_iff.mpr
    intro blank
    exact Bool.eq_false_iff.mp left (Text.allBlank_append_iff.mp blank).1
  | minus _ _ ih | plus _ _ ih =>
    apply Bool.eq_false_iff.mpr
    intro blank
    exact Bool.eq_false_iff.mp ih (Text.allBlank_append_iff.mp blank).2
  | dice term spaced =>
    obtain ⟨c, first, visible, _⟩ := term.head_facts
    exact spaced.allBlank_eq_false first visible
  | number numeral _ spaced =>
    obtain ⟨c, first, visible, _⟩ := numeral.head_facts
    exact spaced.allBlank_eq_false first visible
  | group _ spaced _ => exact spaced.allBlank_eq_false rfl (by decide)

theorem Sentence.atom_head {text : Text} {e : DiceExpr} (sentence : Sentence .atom text e)
    (rest : Text) (op : Op) : (text ++ rest).trimStart.head? ≠ some op.symbol := by
  intro sign
  cases sentence with
  | dice term spaced =>
    obtain ⟨c, first, visible, alphanum⟩ := term.head_facts
    cases (spaced.head_trimStart first visible rest).symm.trans sign
    rw [op.symbol_facts.1] at alphanum
    contradiction
  | number numeral value spaced =>
    obtain ⟨c, first, visible, alphanum⟩ := numeral.head_facts
    cases (spaced.head_trimStart first visible rest).symm.trans sign
    rw [op.symbol_facts.1] at alphanum
    contradiction
  | group inner spaced =>
    have same := (spaced.head_trimStart rfl (by decide) rest).symm.trans sign
    cases op <;> contradiction

namespace Reader

variable {inner : Reader DiceExpr}

theorem atom_of_dice {core part rest : Text} {d : Dice} (term : DiceTerm core d)
    (spaced : Spaced core part) (apart : Apart rest) :
    atom inner (part ++ rest) = some (.leaf d, rest.trimStart) := by
  obtain ⟨c, first, visible, _⟩ := term.head_facts
  apply padded_append spaced first visible
  intro after blank
  exact or_of_some (map_eq_some_iff.mpr ⟨d, dice_append term (apart.blank_append blank), rfl⟩)

theorem atom_of_number {core part rest : Text} {n : Amount} (numeral : Numeral core)
    (value : (Text.digitsValue core : Int) = n.value) (spaced : Spaced core part)
    (apart : Apart rest) : atom inner (part ++ rest) = some (.number n, rest.trimStart) := by
  obtain ⟨c, first, visible, _⟩ := numeral.head_facts
  apply padded_append spaced first visible
  intro after blank
  have apart := apart.blank_append blank
  have noDice : map Expr.leaf dice (core ++ (after ++ rest)) = none := by
    simp only [map, dice_of_numeral numeral apart, Option.map_none]
  rw [or_of_none noDice]
  exact or_of_some (map_eq_some_iff.mpr ⟨n, number_append numeral value apart.noDigit, rfl⟩)

theorem atom_of_group {text part rest : Text} {e : DiceExpr}
    (reads : ∀ behind, inner (text ++ ')' :: behind) = some (e, ')' :: behind))
    (spaced : Spaced ('(' :: (text ++ [')'])) part) :
    atom inner (part ++ rest) = some (e, rest.trimStart) := by
  apply padded_append spaced rfl (by decide)
  intro after _
  have stop (behind : Text) : NoDigit ('(' :: behind) := by simp [NoDigit]
  have noDice (behind : Text) : map Expr.leaf dice ('(' :: behind) = none := by
    simp only [map, dice_of_noDigit (stop behind) (by simp), Option.map_none]
  have noNumber (behind : Text) :
      map (.number : Amount → DiceExpr) number ('(' :: behind) = none := by
    simp only [map, number, digits_of_noDigit (stop behind), Option.bind_eq_bind, Option.bind_none,
      Option.map_none]
  rw [List.cons_append, List.append_assoc, List.singleton_append, or_of_none (noDice _),
    or_of_none (noNumber _)]
  simp only [parenthesised, char_self, reads, Option.bind_eq_bind, Option.bind_some]

def Takes (inner : Reader DiceExpr) : Level → Text → DiceExpr → Text → Prop
  | .atom, text, e, rest => atom inner text = some (e, rest)
  | .unary, text, e, rest => unary inner text = some (e, rest)
  | .product, text, e, rest => ChainReads factorOperators (unary inner) text e rest
  | .sum, text, e, rest => ChainReads termOperators (product inner) text e rest

def EndsOperand : Level → Text → Prop
  | .sum, rest => ∀ op ∈ factorOperators, rest.head? ≠ some op.symbol
  | _, _ => True

theorem endsOperand_of_additive {op : Op} {mid : Text} (additive : op.isMultiplicative = false)
    (spaced : Spaced [op.symbol] mid) (rest : Text) : EndsOperand .sum (mid ++ rest).trimStart := by
  intro other factor same
  have first := spaced.head_trimStart rfl op.symbol_facts.2.1 rest
  cases Op.symbol_injective (Option.some.inj (first.symm.trans same))
  rw [mem_factorOperators, additive] at factor
  contradiction

theorem head_close_ne (behind : Text) (op : Op) :
    (Text.trimStart (')' :: behind)).head? ≠ some op.symbol := by
  have closed : Text.trimStart (')' :: behind) = ')' :: behind := Text.trimStart_cons (by decide)
  rw [closed]
  exact fun same => op.symbol_facts.2.2 (Option.some.inj same).symm

theorem product_of_takes {text rest : Text} {e : DiceExpr} (sound : Sound inner (Sentence .sum))
    (takes : Takes inner .product text e rest.trimStart)
    (done : ∀ op ∈ factorOperators, rest.trimStart.head? ≠ some op.symbol) :
    product inner text = some (e, rest.trimStart) := by
  apply ChainReads.chain_of_end (unary_sound sound) takes
  apply operator_of_head
  rw [Text.trimStart_trimStart]
  exact done

theorem unary_of_spaced_sign (sign : Op) {mid text rest after : Text} {e : DiceExpr}
    (known : sign ∈ signOperators) (spaced : Spaced [sign.symbol] mid)
    (reads : unary inner (text ++ rest) = some (e, after)) :
    unary inner (mid ++ text ++ rest) = some (signed sign e, after) := by
  rw [List.append_assoc, unary_of_sign (operator_append known spaced (text ++ rest)),
    unary_trimStart, reads]
  rfl

end Reader

open Reader in
/-- Induction on the sentence. What a level reads is followed by the rest without its blanks, so a
following operator is met at once. -/
theorem Sentence.takes {level : Level} {text : Text} {e : DiceExpr}
    (sentence : Sentence level text e) :
    ∀ (depth : Nat) (rest : Text), text.length ≤ depth → Apart rest →
      EndsOperand level rest.trimStart →
      Takes (expression depth) level (text ++ rest) e rest.trimStart := by
  induction sentence with
  | ofProduct _ ih =>
    intro depth rest fits apart done
    exact .first (product_of_takes (expression_sound depth) (ih depth rest fits apart trivial) done)
  | @sum left mid right op a b _ additive spaced _ ihLeft ihRight =>
    intro depth rest fits apart done
    simp only [List.length_append] at fits
    have sound := expression_sound depth
    have before := ihLeft depth (mid ++ (right ++ rest)) (by omega)
      (spaced.apart_append op.symbol_facts.1 _) (endsOperand_of_additive additive spaced _)
    have sign : operator termOperators (mid ++ (right ++ rest)).trimStart =
        some (op, (right ++ rest).trimStart) :=
      (padded_trimStart _ _).trans (operator_append (mem_termOperators.mpr additive) spaced _)
    have after := product_of_takes sound (ihRight depth rest (by omega) apart trivial) done
    simp only [List.append_assoc]
    exact .next before sign ((product_trimStart _).trans after)
  | ofUnary _ ih =>
    intro depth rest fits apart _
    exact .first (ih depth rest fits apart trivial)
  | @product left mid right op a b _ multiplicative spaced _ ihLeft ihRight =>
    intro depth rest fits apart _
    simp only [List.length_append] at fits
    have before := ihLeft depth (mid ++ (right ++ rest)) (by omega)
      (spaced.apart_append op.symbol_facts.1 _) trivial
    have sign : operator factorOperators (mid ++ (right ++ rest)).trimStart =
        some (op, (right ++ rest).trimStart) :=
      (padded_trimStart _ _).trans
        (operator_append (mem_factorOperators.mpr multiplicative) spaced _)
    have after := ihRight depth rest (by omega) apart trivial
    simp only [List.append_assoc]
    exact .next before sign ((unary_trimStart _).trans after)
  | ofAtom sentence ih =>
    intro depth rest fits apart _
    have noSign : operator signOperators _ = none :=
      operator_of_head fun op _ => sentence.atom_head rest op
    exact (unary_of_atom noSign).trans (ih depth rest fits apart trivial)
  | minus spaced _ ih =>
    intro depth rest fits apart _
    rw [List.length_append] at fits
    exact unary_of_spaced_sign .sub (by decide) spaced (ih depth rest (by omega) apart trivial)
  | plus spaced _ ih =>
    intro depth rest fits apart _
    rw [List.length_append] at fits
    exact unary_of_spaced_sign .add (by decide) spaced (ih depth rest (by omega) apart trivial)
  | dice term spaced =>
    intro depth rest _ apart _
    exact atom_of_dice term spaced apart
  | number numeral value spaced =>
    intro depth rest _ apart _
    exact atom_of_number numeral value spaced apart
  | @group inner text e _ spaced ih =>
    intro depth rest fits apart _
    obtain ⟨before, after, _, _, rfl⟩ := id spaced
    simp only [List.length_append, List.length_cons, List.length_nil] at fits
    obtain ⟨depth, rfl⟩ : ∃ d, depth = d + 1 := ⟨depth - 1, by omega⟩
    apply atom_of_group _ spaced
    intro behind
    have closed : Text.trimStart (')' :: behind) = ')' :: behind := Text.trimStart_cons (by decide)
    have other := head_close_ne behind
    have takes := ih depth (')' :: behind) (by omega) (by simp [Apart]) fun op _ => other op
    rw [closed] at takes
    exact takes.chain_of_end (product_sound (expression_sound depth))
      (operator_of_head fun op _ => other op)

theorem Reader.whole_eq_some_iff {reader : Reader α} {text : Text} {value : α} :
    Reader.whole reader text = some value ↔ reader text = some (value, []) := by
  unfold Reader.whole
  split
  · rename_i v found
    simp [found]
  · rename_i other
    constructor
    · intro impossible
      contradiction
    · intro found
      exact absurd found (other value)

theorem DiceExpr.parse?_of_sentence {text : Text} {e : DiceExpr}
    (sentence : Sentence .sum text.lowercase e) : DiceExpr.parse? text = some e := by
  apply Reader.whole_eq_some_iff.mpr
  have takes := sentence.takes text.lowercase.length [] (Nat.le_refl _) (by simp [Apart])
    (by simp [Reader.EndsOperand, Text.trimStart])
  rw [List.append_nil] at takes
  exact takes.chain_of_end (Reader.product_sound (Reader.expression_sound _)) rfl

theorem DiceExpr.sentence_of_parse? {text : Text} {e : DiceExpr}
    (reads : DiceExpr.parse? text = some e) : Sentence .sum text.lowercase e := by
  obtain ⟨part, sentence, same⟩ :=
    Reader.expression_sound _ _ _ _ (Reader.whole_eq_some_iff.mp reads)
  rw [same, List.append_nil]
  exact sentence

theorem DiceExpr.parse_eq_ok_iff_parse? {text : Text} {e : DiceExpr} :
    DiceExpr.parse text = .ok e ↔ DiceExpr.parse? text = some e := by
  unfold DiceExpr.parse
  split <;> simp_all

theorem DiceExpr.sentence_of_parse {text : Text} {e : DiceExpr}
    (reads : DiceExpr.parse text = .ok e) : Sentence .sum text.lowercase e :=
  sentence_of_parse? (parse_eq_ok_iff_parse?.mp reads)

theorem DiceExpr.parse_of_sentence {text : Text} {e : DiceExpr}
    (sentence : Sentence .sum text.lowercase e) : DiceExpr.parse text = .ok e :=
  parse_eq_ok_iff_parse?.mpr (parse?_of_sentence sentence)

/-- A text is read as an expression exactly when, in lower case, it is a sentence that denotes
it. -/
theorem DiceExpr.parse_eq_ok_iff (text : Text) (e : DiceExpr) :
    DiceExpr.parse text = .ok e ↔ Sentence .sum text.lowercase e :=
  parse_eq_ok_iff_parse?.trans ⟨sentence_of_parse?, parse?_of_sentence⟩

theorem Dice.parse_eq_ok_iff_parse? {text : Text} {d : Dice} :
    Dice.parse text = .ok d ↔ Dice.parse? text = some d := by
  unfold Dice.parse
  split <;> simp_all

theorem Dice.parse_eq_ok_iff_term {text : Text} {d : Dice} :
    Dice.parse text = .ok d ↔ ∃ core, DiceTerm core d ∧ Spaced core text.lowercase := by
  rw [parse_eq_ok_iff_parse?, Dice.parse?, Reader.whole_eq_some_iff]
  constructor
  · intro reads
    obtain ⟨core, part, term, spaced, same⟩ := Reader.padded_sound Reader.dice_sound reads
    rw [same, List.append_nil]
    exact ⟨core, term, spaced⟩
  · rintro ⟨core, term, spaced⟩
    obtain ⟨c, first, visible, _⟩ := term.head_facts
    have reads : Reader.padded Reader.dice (text.lowercase ++ []) = some (d, []) :=
      Reader.padded_append spaced first visible fun after blank =>
        Reader.dice_append term (Apart.blank_append blank (by simp [Apart]))
    rwa [List.append_nil] at reads

end Tabletop
