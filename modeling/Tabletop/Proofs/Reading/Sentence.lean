import Tabletop.Expr.Parser

/-! The notation as a grammar, with no reader in it. A sentence belongs to one of four levels; a sum
and a product extend to the left, so operators of one level group from the left. A modifier is
always the longest one that the following text starts with. -/
namespace Tabletop

inductive Numeral : Text → Prop where
  | zero : Numeral ['0']
  | digits {c : Char} {cs : Text} : c ≠ '0' → (∀ d ∈ c :: cs, d.isDigit = true) → Numeral (c :: cs)

def SmallNumber (text : Text) (n : UInt8) : Prop :=
  Numeral text ∧ Text.digitsValue text = n.toNat

inductive OptionalNumber : Text → Option UInt8 → Prop where
  | absent : OptionalNumber [] none
  | present {text : Text} {n : UInt8} : SmallNumber text n → OptionalNumber text (some n)

inductive ModifierTerm : Text → Modifier → Prop where
  | minimum {text : Text} {n : UInt8} : SmallNumber text n →
      ModifierTerm ('m' :: 'i' :: 'n' :: text) (.minimum n)
  | maximum {text : Text} {n : UInt8} : SmallNumber text n →
      ModifierTerm ('m' :: 'a' :: 'x' :: text) (.maximum n)
  | reroll {text : Text} {n : Option UInt8} : OptionalNumber text n →
      ModifierTerm ('r' :: text) (.reroll (.atMost (n.getD 1)) false)
  | rerollAll {text : Text} {n : Option UInt8} : OptionalNumber text n →
      ModifierTerm ('r' :: 'r' :: text) (.reroll (.atMost (n.getD 1)) true)
  | explode {text : Text} {n : Option UInt8} : OptionalNumber text n →
      ModifierTerm ('x' :: text) (.explode (n.map .atLeast) true)
  | explodeOnce {text : Text} {n : Option UInt8} : OptionalNumber text n →
      ModifierTerm ('x' :: 'o' :: text) (.explode (n.map .atLeast) false)
  | keepLow {text : Text} {n : Option UInt8} : OptionalNumber text n →
      ModifierTerm ('k' :: 'l' :: text) (.keepLow (n.getD 1))
  | keepHigh {text : Text} {n : Option UInt8} : OptionalNumber text n →
      ModifierTerm ('k' :: text) (.keepHigh (n.getD 1))
  | keepHighest {text : Text} {n : Option UInt8} : OptionalNumber text n →
      ModifierTerm ('k' :: 'h' :: text) (.keepHigh (n.getD 1))

/-- No longer first part of the whole text is a modifier. -/
def LongestModifier (part whole : Text) : Prop :=
  ∀ other modifier, ModifierTerm other modifier → other <+: whole → other.length ≤ part.length

inductive ModifierTerms : Text → List Modifier → Prop where
  | nil : ModifierTerms [] []
  | cons {part rest : Text} {modifier : Modifier} {modifiers : List Modifier} :
      ModifierTerm part modifier → LongestModifier part (part ++ rest) →
        ModifierTerms rest modifiers → ModifierTerms (part ++ rest) (modifier :: modifiers)

inductive SidesTerm : Text → UInt8 → Prop where
  | number {text : Text} {n : UInt8} : SmallNumber text n → SidesTerm text n
  | percent : SidesTerm ['%'] 100

inductive DiceTerm : Text → Dice → Prop where
  | mk {count sides modifiers : Text} {n : Option UInt8} {m : UInt8} {ms : List Modifier} :
      OptionalNumber count n → SidesTerm sides m → ModifierTerms modifiers ms →
        DiceTerm (count ++ 'd' :: (sides ++ modifiers)) ⟨n.getD 1, m, ms⟩

/-- A text with any blanks around it. -/
def Spaced (core text : Text) : Prop :=
  ∃ before after : Text, before.allBlank = true ∧ after.allBlank = true ∧
    text = before ++ (core ++ after)

inductive Level where
  | sum | product | unary | atom

/-- The sentences of each level, with the expressions that they denote. -/
inductive Sentence : Level → Text → DiceExpr → Prop where
  | ofProduct {text : Text} {e : DiceExpr} : Sentence .product text e → Sentence .sum text e
  | sum {left mid right : Text} {op : Op} {a b : DiceExpr} :
      Sentence .sum left a → op.isMultiplicative = false → Spaced [op.symbol] mid →
        Sentence .product right b → Sentence .sum (left ++ (mid ++ right)) (.binary op a b)
  | ofUnary {text : Text} {e : DiceExpr} : Sentence .unary text e → Sentence .product text e
  | product {left mid right : Text} {op : Op} {a b : DiceExpr} :
      Sentence .product left a → op.isMultiplicative = true → Spaced [op.symbol] mid →
        Sentence .unary right b → Sentence .product (left ++ (mid ++ right)) (.binary op a b)
  | ofAtom {text : Text} {e : DiceExpr} : Sentence .atom text e → Sentence .unary text e
  | minus {sign text : Text} {e : DiceExpr} :
      Spaced ['-'] sign → Sentence .unary text e → Sentence .unary (sign ++ text) (.neg e)
  | plus {sign text : Text} {e : DiceExpr} :
      Spaced ['+'] sign → Sentence .unary text e → Sentence .unary (sign ++ text) e
  | dice {core text : Text} {d : Dice} :
      DiceTerm core d → Spaced core text → Sentence .atom text (.leaf d)
  | number {core text : Text} {n : Amount} :
      Numeral core → (Text.digitsValue core : Int) = n.value → Spaced core text →
        Sentence .atom text (.number n)
  | group {inner text : Text} {e : DiceExpr} :
      Sentence .sum inner e → Spaced ('(' :: (inner ++ [')'])) text → Sentence .atom text e

end Tabletop
