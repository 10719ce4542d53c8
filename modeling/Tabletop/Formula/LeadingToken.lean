import Tabletop.Text.Blank
import Tabletop.Text.Scan

/-!
The leading token of a line and the free text behind it. The token is a word, with critical blocks
in front of it; operators and signs set apart by blanks continue it together with the word behind
them, and so does a critical block set apart by blanks.
-/
namespace Tabletop

namespace Reader

def solid : Reader Unit
  | [] => none
  | c :: rest => if isBlank c then none else some ((), rest.dropWhile fun c => !isBlank c)

def blockShape : Reader Unit := fun text => do
  let (_, rest) ← char '\x7b' text
  let (_, rest) := optional (char '*') rest
  match rest with
  | c :: k :: ':' :: rest =>
    if (c = 'c' || c = 'C') && (k = 'f' || k = 'F' || k = 's' || k = 'S') then
      char '\x7d' (rest.dropWhile (· ≠ '\x7d'))
    else none
  | _ => none

/-- The first word, with at most `bound` blocks in front of it. The last block is itself the word
when nothing follows it. -/
def firstWord : Nat → Reader Unit
  | 0 => solid
  | bound + 1 => fun text =>
    match blockShape text with
    | some (_, rest) => firstWord bound rest.trimStart <|> solid text
    | none => solid text

def isJoint (c : Char) : Bool :=
  c == '+' || c == '-' || c == '*' || c == '/' || c == '\\' || c == '<' || c == '>' ||
    c == '=' || c == '!'

/-- Operators and signs after blanks, with the word behind them; several of them need no word. -/
def joinedWord : Reader Unit := fun text =>
  let start := text.trimStart
  let joints := start.takeWhile isJoint
  let rest := start.dropWhile isJoint
  match joints with
  | [] => none
  | [_] => solid (Text.trimStart rest)
  | _ => solid (Text.trimStart rest) <|> some ((), rest)

def setApartBlock : Reader Unit := fun text => do
  if text.head?.any isBlank then
    let (_, rest) ← blockShape text.trimStart
    some ((), rest.dropWhile fun c => !isBlank c)
  else none

end Reader

def leadingToken? (text : Text) : Option (Text × Option Text) := do
  let start := text.trimStart
  let (_, rest) ← Reader.firstWord start.length start
  let (_, rest) := Reader.repeated (Reader.or Reader.joinedWord Reader.setApartBlock) rest
  let comment := rest.trim
  some (Reader.taken start rest, if comment.isEmpty then none else some comment)

end Tabletop
