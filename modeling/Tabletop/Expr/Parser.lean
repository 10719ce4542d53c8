import Tabletop.Expr.Basic
import Tabletop.Text.LetterCase
import Tabletop.Text.Reader
import Tabletop.Text.Blank

/-!
Reading dice notation. The text is put into lower case first. Blanks may stand around every atom and
operator and nowhere inside a dice term. A number is zero or has no leading zero; an optional number
that is too large is not read at all.
-/
namespace Tabletop

namespace Reader

def digits : Reader Text
  | [] => none
  | c :: cs =>
    if c = '0' then some ([c], cs)
    else if c.isDigit then some (c :: cs.takeWhile Char.isDigit, cs.dropWhile Char.isDigit)
    else none

def smallNumber : Reader UInt8 := fun text => do
  let (digits, rest) ← digits text
  let n := Text.digitsValue digits
  if n ≤ 255 then some (UInt8.ofNat n, rest) else none

def sides : Reader UInt8 := or smallNumber (map (fun _ => 100) (char '%'))

def wordThenNumber (expected : Text) (build : UInt8 → Modifier) : Reader Modifier := fun text => do
  let (_, rest) ← word expected text
  map build smallNumber rest

def reroll : Reader Modifier := fun text => do
  let (_, rest) ← char 'r' text
  let (second, rest) := optional (char 'r') rest
  let (value, rest) := optional smallNumber rest
  some (.reroll (.atMost (value.getD 1)) second.isSome, rest)

def explode : Reader Modifier := fun text => do
  let (_, rest) ← char 'x' text
  let (once, rest) := optional (char 'o') rest
  let (value, rest) := optional smallNumber rest
  some (.explode (value.map .atLeast) once.isNone, rest)

def keepLow : Reader Modifier := fun text => do
  let (_, rest) ← word ['k', 'l'] text
  let (count, rest) := optional smallNumber rest
  some (.keepLow (count.getD 1), rest)

def keepHigh : Reader Modifier := fun text => do
  let (_, rest) ← char 'k' text
  let (_, rest) := optional (char 'h') rest
  let (count, rest) := optional smallNumber rest
  some (.keepHigh (count.getD 1), rest)

def modifier : Reader Modifier :=
  -- `kl` is tried before `k`, which would leave the `l` unread.
  or (wordThenNumber ['m', 'i', 'n'] .minimum) <| or (wordThenNumber ['m', 'a', 'x'] .maximum) <|
    or reroll <| or explode <| or keepLow keepHigh

def dice : Reader Dice := fun text => do
  let (count, rest) := optional smallNumber text
  let (_, rest) ← char 'd' rest
  let (sides, rest) ← sides rest
  let (modifiers, rest) := repeated modifier rest
  some (⟨count.getD 1, sides, modifiers⟩, rest)

def padded (reader : Reader α) : Reader α := fun text => do
  let (value, rest) ← reader text.trimStart
  some (value, rest.trimStart)

def operator (ops : List Op) : Reader Op :=
  padded fun
    | [] => none
    | c :: rest => (ops.find? fun op => op.symbol = c).map (·, rest)

def number : Reader Amount := fun text => do
  let (digits, rest) ← digits text
  (Amount.ofInt? (Text.digitsValue digits)).map (·, rest)

def parenthesised (reader : Reader α) : Reader α := fun text => do
  let (_, rest) ← char '(' text
  let (value, rest) ← reader rest
  let (_, rest) ← char ')' rest
  some (value, rest)

def atom (inner : Reader DiceExpr) : Reader DiceExpr :=
  padded <| or (map .leaf dice) <| or (map .number number) <| parenthesised inner

/-- The expression after a sign; plus changes nothing. -/
def signed (sign : Op) (e : DiceExpr) : DiceExpr := if sign = .sub then .neg e else e

def unary (inner : Reader DiceExpr) : Reader DiceExpr := fun text => do
  let (signs, rest) := repeated (operator [.sub, .add]) text
  let (e, rest) ← atom inner rest
  some (signs.foldr signed e, rest)

def chain (ops : List Op) (operand : Reader DiceExpr) : Reader DiceExpr := fun text => do
  let (first, rest) ← operand text
  let (others, rest) := repeated (fun text => do
    let (op, rest) ← operator ops text
    map (op, ·) operand rest) rest
  some (others.foldl (fun e (op, operand) => .binary op e operand) first, rest)

def product (inner : Reader DiceExpr) : Reader DiceExpr :=
  chain [.mul, .divDown, .divUp] (unary inner)

def sum (inner : Reader DiceExpr) : Reader DiceExpr := chain [.add, .sub] (product inner)

/-- An expression whose parentheses are nested less deep than `depth`. -/
def expression : Nat → Reader DiceExpr
  | 0 => fun _ => none
  | depth + 1 => sum (expression depth)

def whole (reader : Reader α) (text : Text) : Option α :=
  match reader text with
  | some (value, []) => some value
  | _ => none

end Reader

def Dice.parse? (text : Text) : Option Dice :=
  Reader.whole (Reader.padded Reader.dice) text.lowercase

def DiceExpr.parse? (text : Text) : Option DiceExpr :=
  -- A text cannot nest more parentheses than it has characters.
  Reader.whole (Reader.expression (text.lowercase.length + 1)) text.lowercase

end Tabletop
