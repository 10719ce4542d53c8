import Tabletop.Text.Blank

/-!
Comparison signs: what they mean, how they are written and how a decided comparison is shown. The
text at the front of a text can start with a sign in at most two ways; `Sign.leading` lists the
longer one first.
-/
namespace Tabletop

inductive Sign where
  | less | greater | atMost | atLeast | equal | notEqual | same
  deriving DecidableEq

namespace Sign

def all : List Sign := [less, greater, atMost, atLeast, equal, notEqual, same]

def holds (sign : Sign) (left right : Int) : Bool :=
  match sign with
  | less => left < right
  | greater => right < left
  | atMost => left ≤ right
  | atLeast => right ≤ left
  | equal | same => left = right
  | notEqual => left ≠ right

def symbol : Sign → Text
  | less => ['<']
  | greater => ['>']
  | atMost => ['<', '=']
  | atLeast => ['>', '=']
  | equal => ['=']
  | notEqual => ['!', '=']
  | same => ['=', '=']

/-- The sign shown once the comparison is decided: a failed order shows the opposite direction. -/
def shown (passed : Bool) : Sign → Text
  | less => if passed then ['<'] else ['>']
  | greater => if passed then ['>'] else ['<']
  | atMost => if passed then ['≤'] else ['≥']
  | atLeast => if passed then ['≥'] else ['≤']
  | equal => ['=']
  | notEqual => ['!', '=']
  | same => ['=', '=']

def ofText? (text : Text) : Option Sign := all.find? fun sign => sign.symbol == text.trim

def unknownMessage (text : Text) : Text := "unknown comparison sign: " ++ text.trim

/-- The ways in which a text can start with a sign, the longer sign first, each with what
follows. -/
def leading : Text → List (Sign × Text)
  | '<' :: '=' :: rest => [(atMost, rest), (less, '=' :: rest)]
  | '<' :: rest => [(less, rest)]
  | '>' :: '=' :: rest => [(atLeast, rest), (greater, '=' :: rest)]
  | '>' :: rest => [(greater, rest)]
  | '!' :: '=' :: rest => [(notEqual, rest)]
  | '=' :: '=' :: rest => [(same, rest), (equal, '=' :: rest)]
  | '=' :: rest => [(equal, rest)]
  | _ => []

def isSignChar (c : Char) : Bool := c == '<' || c == '>' || c == '=' || c == '!'

theorem symbol_ne_nil (sign : Sign) : sign.symbol ≠ [] := by
  cases sign <;> simp [symbol]

theorem eq_append_of_mem_leading {text rest : Text} {sign : Sign}
    (starts : (sign, rest) ∈ leading text) : text = sign.symbol ++ rest := by
  unfold leading at starts
  split at starts <;> simp at starts <;> grind [Sign.symbol]

end Sign
end Tabletop
