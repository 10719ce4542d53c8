import Tabletop.Text.Basic

/-!
Readers of a first part of a text. A reader gives what it read and the text that follows, or
nothing. Choice is ordered, and repetition takes as many readings as there are, each of them shorter
than what was left.
-/
namespace Tabletop

/-- A reader takes a first part of a text, and gives what it read and the text that follows. -/
abbrev Reader (α : Type) := Text → Option (α × Text)

namespace Reader

def or (first second : Reader α) : Reader α := fun text => first text <|> second text

def map (f : α → β) (reader : Reader α) : Reader β := fun text =>
  (reader text).map fun (value, rest) => (f value, rest)

def char (expected : Char) : Reader Unit
  | [] => none
  | c :: rest => if c = expected then some ((), rest) else none

def word (expected : Text) : Reader Unit := fun text =>
  (Text.after? expected text).map fun rest => ((), rest)

def optional (reader : Reader α) (text : Text) : Option α × Text :=
  match reader text with
  | some (value, rest) => (some value, rest)
  | none => (none, text)

def repeatedWithin (reader : Reader α) : Nat → Text → List α × Text
  | 0, text => ([], text)
  | bound + 1, text => match reader text with
    | some (value, rest) =>
      let (values, last) := repeatedWithin reader bound rest
      (value :: values, last)
    | none => ([], text)

/-- As many readings as there are; a reading takes at least one character, so the length bounds
them. -/
def repeated (reader : Reader α) (text : Text) : List α × Text :=
  repeatedWithin reader text.length text

end Reader
end Tabletop
