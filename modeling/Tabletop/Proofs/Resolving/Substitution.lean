import Tabletop.Proofs.Resolving.Lookup
import Tabletop.Proofs.Resolving.Printed

/-! Stats in expressions. Resolving a formula written out from an expression with stats among its
operands gives the text of the expression with every stat replaced, so what is read of it is the
expression with the values in place. -/
namespace Tabletop

inductive Operand where
  | dice (term : Dice)
  | dollar (name : Text)
  | paren (name : Text)

namespace Operand

def text : Operand → Text
  | .dice term => term.text
  | .dollar name => '$' :: name
  | .paren name => Expr.grouped name

def Legible : Operand → Prop
  | .dice term => Dice.parse term.text = .ok term
  | .dollar name | .paren name => IsIdentifier name

def afterDollars (resolver : Resolver) : Operand → Text
  | .dollar name => (resolver.forDollar name ('$' :: name)).1
  | operand => operand.text

def resolved (resolver : Resolver) : Operand → Text
  | .paren name => (resolver.forGroup name (Expr.grouped name)).1
  | operand => operand.afterDollars resolver

end Operand

theorem Dice.not_mem_text {dice : Dice} (reads : Dice.parse dice.text = .ok dice) {m : Char}
    (visible : isBlank m = false) (foreign : isTermChar m = false) : m ∉ dice.text := by
  obtain ⟨core, term, spaced⟩ := Dice.parse_eq_ok_iff_term.mp reads
  rw [Text.lowercase_of_plain dice.plain_text] at spaced
  exact spaced.not_mem visible (Text.not_mem_of_all term.termChars foreign)

theorem Dice.startsOperand_text (dice : Dice) : StartsOperand dice.text := by
  have digits : ∀ c ∈ Text.ofNat dice.count.toNat, c = '-' ∨ c.isDigit = true := fun c member =>
    .inr (Text.isDigit_of_mem_ofNat member)
  obtain ⟨c, cs, first, facts⟩ := startsOperand_digit (Text.ofNat_ne_nil _) digits
  exact ⟨c, _, by rw [Dice.text, first, List.append_assoc, List.cons_append], facts⟩

theorem Amount.startsOperand_text (n : Amount) : StartsOperand n.text :=
  startsOperand_digit n.text_ne_nil fun _ member => n.isDigit_of_mem_text member

theorem Amount.startsOperand_operand (n : Amount) : StartsOperand n.operand := by
  unfold operand
  split
  · exact Expr.startsOperand_grouped _
  · exact n.startsOperand_text

variable {resolver : Resolver}

theorem Operand.passes_dollars {operand : Operand} (legible : operand.Legible) :
    Passes dollarReference (fun name whole => (resolver.forDollar name whole).1) operand.text
      (operand.afterDollars resolver) := by
  cases operand with
  | dice term =>
    have fresh : '$' ∉ term.text := Dice.not_mem_text legible (by decide) (by decide)
    exact passes_of_not_mem dollarReference_opens fresh
  | dollar name =>
    intro tail follows
    have stops : ∀ c ∈ tail.head?, isNameChar c = false := fun c member => by
      rcases follows c member with rfl | rfl <;> decide
    exact Reader.substituted_of_reads (List.cons_ne_nil '$' name)
      (dollarReference_append legible stops) _
  | paren name =>
    have fresh : '$' ∉ name := IsIdentifier.not_mem legible (by decide)
    exact passes_of_not_mem dollarReference_opens
      (by simpa [Operand.text, Expr.grouped] using fresh)

theorem Amount.passes_operand (n : Amount) (exchange : Text → Text → Text) :
    Passes parenthesisedName exchange n.operand n.operand := by
  have fresh : '(' ∉ n.text := fun member => by
    rcases n.isDigit_of_mem_text member with same | digit
    · cases same
    · cases digit
  have bare : Passes parenthesisedName exchange n.text n.text :=
    passes_of_not_mem parenthesisedName_opens fresh
  unfold operand
  split
  · refine bare.grouped parenthesisedName_opens (by decide) fun tail =>
      parenthesisedName_of_startsOperand ?_
    obtain ⟨c, cs, first, facts⟩ := n.startsOperand_text
    exact ⟨c, cs ++ tail, by rw [first, List.cons_append], facts⟩
  · exact bare

theorem Operand.passes_groups {operand : Operand} (legible : operand.Legible) :
    Passes parenthesisedName
      (fun name whole => (resolver.forGroup name whole).1) (operand.afterDollars resolver)
      (operand.resolved resolver) := by
  cases operand with
  | dice term =>
    have fresh : '(' ∉ term.text := Dice.not_mem_text legible (by decide) (by decide)
    exact passes_of_not_mem parenthesisedName_opens fresh
  | dollar name =>
    simp only [resolved, afterDollars, Resolver.forDollar]
    split
    · exact Amount.passes_operand _ _
    · have fresh : '(' ∉ name := IsIdentifier.not_mem legible (by decide)
      exact passes_of_not_mem parenthesisedName_opens (by simpa using fresh)
  | paren name =>
    intro tail _
    have reads : parenthesisedName ('(' :: (name ++ ')' :: tail)) = some (name, tail) :=
      parenthesisedName_of_spaced (IsIdentifier.phrase legible) (.refl name)
    have whole : '(' :: (name ++ ')' :: tail) = Expr.grouped name ++ tail := by simp [Expr.grouped]
    rw [whole] at reads
    exact Reader.substituted_of_reads (by simp [Expr.grouped]) reads _

theorem Operand.startsOperand_text {operand : Operand} : StartsOperand operand.text := by
  cases operand with
  | dice term => exact term.startsOperand_text
  | dollar name => exact ⟨'$', name, rfl, by decide⟩
  | paren name => exact Expr.startsOperand_grouped name

theorem Operand.startsOperand_afterDollars {operand : Operand} :
    StartsOperand (operand.afterDollars resolver) := by
  cases operand with
  | dice term => exact term.startsOperand_text
  | dollar name =>
    simp only [afterDollars, Resolver.forDollar]
    split
    · exact Amount.startsOperand_operand _
    · exact ⟨'$', name, rfl, by decide⟩
  | paren name => exact Expr.startsOperand_grouped name

theorem Resolver.resolve_text (plain : resolver.overrides = []) {e : Expr Operand}
    (legible : ∀ x ∈ e.leaves, x.Legible) :
    (resolver.resolve (e.text Operand.text)).formula = e.text (Operand.resolved resolver) := by
  have first : Passes dollarReference (fun name whole => (resolver.forDollar name whole).1)
      (e.text Operand.text) (e.text (Operand.afterDollars resolver)) :=
    passes_text dollarReference_opens (by decide) (by decide)
      (fun text _ => dollarReference_opens.of_ne (by decide) text)
      (fun _ _ => Operand.startsOperand_text)
      fun x member => Operand.passes_dollars (legible x member)
  have second : Passes parenthesisedName (fun name whole => (resolver.forGroup name whole).1)
      (e.text (Operand.afterDollars resolver)) (e.text (Operand.resolved resolver)) :=
    passes_text parenthesisedName_opens (by decide) (by decide)
      (fun _ => parenthesisedName_of_startsOperand)
      (fun _ _ => Operand.startsOperand_afterDollars)
      fun x member => Operand.passes_groups (legible x member)
  rw [resolve_eq plain, afterDollars, first.whole, second.whole]

/-- The expression that stands for an amount: a number, or a negated one. The least amount has
none. -/
inductive Amount.Enters : Amount → DiceExpr → Prop where
  | number {n : Amount} : 0 ≤ n.value → Enters n (.number n)
  | negated {n size : Amount} : n.value < 0 → size.value = -n.value → Enters n (.neg (.number size))

theorem Amount.text_of_negated {n size : Amount} (negative : n.value < 0)
    (opposite : size.value = -n.value) : n.text = '-' :: size.text := by
  unfold text
  obtain ⟨k, value⟩ := Int.eq_negSucc_of_lt_zero negative
  have positive : size.value = Int.ofNat (k + 1) := by
    rw [opposite, value]
    rfl
  rw [value, positive]
  rfl

theorem Amount.Enters.sentence {n : Amount} {e : DiceExpr} (enters : n.Enters e) :
    Sentence .atom n.operand e := by
  cases enters with
  | number nonneg =>
    have positive : ¬ n.value < 0 := by omega
    rw [Amount.operand, if_neg positive]
    exact Amount.sentence nonneg
  | @negated size negative opposite =>
    rw [Amount.operand, if_pos negative, Amount.text_of_negated negative opposite]
    have positive : 0 ≤ size.value := by omega
    exact Sentence.grouped
      (.ofProduct (.ofUnary (.minus (.refl ['-']) (.ofAtom (Amount.sentence positive)))))

theorem Amount.plain_operand (n : Amount) : n.operand.Plain := by
  unfold operand
  split
  · exact Expr.plain_grouped n.plain_text
  · exact n.plain_text

inductive Filled (sheet : StatSheet) : Expr Operand → DiceExpr → Prop where
  | number {n : Amount} : 0 ≤ n.value → Filled sheet (.number n) (.number n)
  | dice {d : Dice} : Dice.parse d.text = .ok d → Filled sheet (.leaf (.dice d)) (.leaf d)
  | dollar {name : Text} {value : Amount} {e : DiceExpr} :
      IsIdentifier name → sheet.Gives name value → value.Enters e →
        Filled sheet (.leaf (.dollar name)) e
  | paren {name : Text} {value : Amount} {e : DiceExpr} :
      IsIdentifier name → isDiceName name = false → sheet.Gives name value → value.Enters e →
        Filled sheet (.leaf (.paren name)) e
  | neg {e : Expr Operand} {f : DiceExpr} : Filled sheet e f → Filled sheet (.neg e) (.neg f)
  | binary {op : Op} {a b : Expr Operand} {f g : DiceExpr} :
      Filled sheet a f → Filled sheet b g → Filled sheet (.binary op a b) (.binary op f g)

namespace StatSheet.Gives

variable {name : Text} {value : Amount}

theorem resolved_dollar (gives : resolver.sheet.Gives name value) (identifier : IsIdentifier name) :
    (Operand.dollar name).resolved resolver = value.operand :=
  gives.forDollar identifier _

theorem resolved_paren (gives : resolver.sheet.Gives name value) (identifier : IsIdentifier name)
    (other : isDiceName name = false) : (Operand.paren name).resolved resolver = value.operand :=
  gives.forGroup identifier other _

end StatSheet.Gives

namespace Filled

variable {sheet : StatSheet} {e : Expr Operand} {f : DiceExpr}

theorem legible (filled : Filled sheet e f) : ∀ x ∈ e.leaves, x.Legible := by
  induction filled with
  | number _ => exact fun _ member => by cases member
  | dice reads => exact fun x member => List.mem_singleton.mp member ▸ reads
  | dollar identifier _ _ => exact fun x member => List.mem_singleton.mp member ▸ identifier
  | paren identifier _ _ _ => exact fun x member => List.mem_singleton.mp member ▸ identifier
  | neg _ ih => exact ih
  | binary _ _ left right =>
    exact fun x member => (List.mem_append.mp member).elim (left x) (right x)

theorem sentence (filled : Filled resolver.sheet e f) :
    Sentence e.level (e.text (Operand.resolved resolver)) f := by
  induction filled with
  | number nonneg => exact Amount.sentence nonneg
  | dice reads => exact Dice.sentence_of_parse reads
  | dollar identifier gives enters =>
    rw [Expr.text, gives.resolved_dollar identifier]
    exact enters.sentence
  | paren identifier other gives enters =>
    rw [Expr.text, gives.resolved_paren identifier other]
    exact enters.sentence
  | neg _ ih => exact .minus (.refl ['-']) (Expr.sentence_neg ih)
  | binary _ _ left right => exact .binary (Expr.sentence_left left) (Expr.sentence_right right)

theorem plain (filled : Filled resolver.sheet e f) :
    ∀ x ∈ e.leaves, (x.resolved resolver).Plain := by
  induction filled with
  | number _ => exact fun _ member => by cases member
  | @dice d _ => exact fun x member => List.mem_singleton.mp member ▸ d.plain_text
  | dollar identifier gives _ =>
    intro x member
    rw [List.mem_singleton.mp member, gives.resolved_dollar identifier]
    exact Amount.plain_operand _
  | paren identifier other gives _ =>
    intro x member
    rw [List.mem_singleton.mp member, gives.resolved_paren identifier other]
    exact Amount.plain_operand _
  | neg _ ih => exact ih
  | binary _ _ left right =>
    exact fun x member => (List.mem_append.mp member).elim (left x) (right x)

end Filled

/-- A stat enters as one operand: resolving the text of an expression and reading the result gives
the expression with every stat replaced by its value, a negative one as a negated number. -/
theorem Resolver.parse_resolve_text (plain : resolver.overrides = []) {e : Expr Operand}
    {f : DiceExpr} (filled : Filled resolver.sheet e f) :
    DiceExpr.parse (resolver.resolve (e.text Operand.text)).formula = .ok f := by
  apply DiceExpr.parse_eq_ok_iff_parse?.mpr
  apply DiceExpr.parse?_of_sentence
  rw [resolve_text plain filled.legible, Text.lowercase_of_plain (Expr.plain_text filled.plain)]
  exact filled.sentence.toSum

def cursedSheet : StatSheet :=
  .ofList [(['L', 'u', 'c', 'k'], ⟨-3, by decide, by decide⟩),
    (['S', 't', 'r'], ⟨2, by decide, by decide⟩)]

theorem Resolver.parse_resolve_text_cursed :
    let e : Expr Operand :=
      .binary .sub (.neg (.leaf (.dollar ['l', 'u', 'c', 'k'])))
        (.binary .mul (.leaf (.paren ['S', 't', 'r']))
          (.binary .add (.leaf (.dice ⟨2, 6, [.keepHigh 1]⟩))
            (.neg (.leaf (.paren ['L', 'U', 'C', 'K'])))))
    let f : DiceExpr :=
      .binary .sub (.neg (.neg (.number ⟨3, by decide, by decide⟩)))
        (.binary .mul (.number ⟨2, by decide, by decide⟩)
          (.binary .add (.leaf ⟨2, 6, [.keepHigh 1]⟩)
            (.neg (.neg (.number ⟨3, by decide, by decide⟩)))))
    let resolver : Resolver := { sheet := cursedSheet }
    resolver.overrides = [] ∧ Filled resolver.sheet e f ∧
      e.text Operand.text = "-$luck - ((Str) * (2d6kh + -(LUCK)))".toList ∧
      DiceExpr.parse (resolver.resolve (e.text Operand.text)).formula = .ok f := by
  intro e f resolver
  have luck : ∀ name, Text.normalized ['L', 'u', 'c', 'k'] = Text.normalized name →
      cursedSheet.Gives name ⟨-3, by decide, by decide⟩ := fun name same =>
    ⟨[], _, _, rfl, same, fun _ member => by cases member⟩
  have strength : cursedSheet.Gives ['S', 't', 'r'] ⟨2, by decide, by decide⟩ :=
    ⟨[_], _, [], rfl, rfl, by decide +kernel⟩
  have lucky :
      Amount.Enters ⟨-3, by decide, by decide⟩ (.neg (.number ⟨3, by decide, by decide⟩)) :=
    .negated (by decide) (by decide)
  have left : Filled resolver.sheet (.leaf (.dollar ['l', 'u', 'c', 'k'])) _ :=
    .dollar ⟨⟨_, _, rfl, by decide⟩, Text.forall_of_all (by decide)⟩
      (luck _ (by decide +kernel)) lucky
  have factor : Filled resolver.sheet (.leaf (.paren ['S', 't', 'r'])) _ :=
    .paren ⟨⟨_, _, rfl, by decide⟩, Text.forall_of_all (by decide)⟩ (by decide) strength
      (.number (by decide))
  have right : Filled resolver.sheet (.leaf (.paren ['L', 'U', 'C', 'K'])) _ :=
    .paren ⟨⟨_, _, rfl, by decide⟩, Text.forall_of_all (by decide)⟩ (by decide)
      (luck _ (by decide +kernel)) lucky
  have filled : Filled resolver.sheet e f :=
    .binary (.neg left) (.binary factor (.binary (.dice rfl) (.neg right)))
  exact ⟨rfl, filled, by decide +kernel, Resolver.parse_resolve_text rfl filled⟩

end Tabletop
