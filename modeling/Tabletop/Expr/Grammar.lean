import Tabletop.Text.Blank

/-!
The grammar of dice notation as a value, for the places where only the extent of a text matters.
Choices are ordered and repetition is greedy, as in the readers.
-/
namespace Tabletop

inductive Rule where
  | char (c : Char)
  | number (name : Option Text) (limit : Nat)
  | blanks
  | finish
  | seq (first second : Rule)
  | choice (first second : Rule)
  | optional (rule : Rule)
  | many (rule : Rule)
  /-- A whole expression, one parenthesis deeper. -/
  | inner

namespace Rule

def inOrder : List Rule → Rule
  | [] => blanks
  | [rule] => rule
  | rule :: rules => seq rule (inOrder rules)

def anyOf : List Rule → Rule
  | [] => blanks
  | [rule] => rule
  | rule :: rules => choice rule (anyOf rules)

def padded (rule : Rule) : Rule := inOrder [blanks, rule, blanks]

def small (name : Text) : Rule := number (some name) 255

def modifier : Rule := anyOf [
  inOrder [char 'm', char 'i', char 'n', small "Minimum"],
  inOrder [char 'm', char 'a', char 'x', small "Maximum"],
  inOrder [char 'r', optional (char 'r'), optional (small "Reroll value")],
  inOrder [char 'x', optional (char 'o'), optional (small "Explode value")],
  inOrder [char 'k', char 'l', optional (small "Keep lowest count")],
  inOrder [char 'k', optional (char 'h'), optional (small "Keep highest count")]]

def dice : Rule := inOrder [
  optional (small "Dice count"), char 'd', choice (small "Dice sides") (char '%'), many modifier]

def unary : Rule :=
  seq (many (choice (padded (char '-')) (padded (char '+'))))
    (padded (anyOf [dice, number none 2147483647, inOrder [char '(', inner, char ')']]))

def product : Rule :=
  seq unary (many (seq (anyOf [padded (char '*'), padded (char '/'), padded (char '\\')]) unary))

def expression : Rule :=
  seq product (many (seq (choice (padded (char '+')) (padded (char '-'))) product))

end Rule
end Tabletop
