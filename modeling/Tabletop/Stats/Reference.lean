import Tabletop.Text.Blank
import Tabletop.Text.Letter
import Tabletop.Text.Scan

/-!
References to stats in a formula: a name after a dollar sign, a name in parentheses, and the bare
dollar sign that stands for the current stat.
-/
namespace Tabletop

def dollarReference : Reader Text
  | '$' :: c :: rest =>
    if isNameStart c then some (c :: rest.takeWhile isNameChar, rest.dropWhile isNameChar) else none
  | _ => none

def parenthesisedName : Reader Text := fun text => do
  let (_, rest) ← Reader.char '(' text
  match Text.trimStart rest with
  | [] => none
  | c :: rest =>
    if isNameStart c then
      let isInner (c : Char) := isNameChar c || c == ' '
      let (_, after) ← Reader.char ')' (Text.trimStart (rest.dropWhile isInner))
      some (Text.trimEnd (c :: rest.takeWhile isInner), after)
    else none

def looseSign : Reader Text := fun text =>
  match Text.trimStart text with
  | c :: rest =>
    if c = '+' || c = '-' then
      let after := Text.trimStart rest
      some (Reader.taken text after, after)
    else none
  | [] => none

/-- A name in parentheses, with the plus or minus directly before it. -/
def parenReference : Reader (Option Text × Text) := fun text =>
  let (sign, rest) := Reader.optional looseSign text
  Reader.map (sign, ·) parenthesisedName rest

/-- A dollar sign that starts no name, with the character behind it. -/
def placeholder : Reader (Option Char)
  | ['$'] => some (none, [])
  | '$' :: c :: rest => if isNameChar c then none else some (some c, rest)
  | _ => none

def fillPlaceholder (value formula : Text) : Text :=
  placeholder.substituted (fun after _ => value ++ after.toList) formula

end Tabletop
