import Tabletop.Critical.Block
import Tabletop.Text.Letter

/-!
Signs that a text can be rolled. A dice term counts when no letter stands directly before it; a
leading number or brace counts too. Critical blocks do not count.
-/
namespace Tabletop

def diceTerm : Reader Unit := fun text =>
  match text.dropWhile isDecimalDigit with
  | c :: rest =>
    if c = 'd' || c = 'D' then
      match rest with
      | '%' :: rest => some ((), rest)
      | k :: rest => if isDecimalDigit k then some ((), rest.dropWhile isDecimalDigit) else none
      | [] => none
    else none
  | [] => none

/-- Whether a character glues a dice term to what stands before it: a letter, or the mark that
shares its case with one. -/
def gluesDice (c : Char) : Bool := isLetter c || c == '\u0345'

def looseDiceTerm : Reader Unit
  | [] => none
  | c :: rest => if gluesDice c then none else diceTerm rest

def holdsDiceTerm (text : Text) : Bool := (diceTerm text).isSome || looseDiceTerm.occursIn text

def numericStart : Reader Unit := fun text =>
  match text.dropWhile fun c => c == '(' || c == '+' || c == '-' with
  | c :: rest => if isDecimalDigit c || c == '\x7b' then some ((), rest) else none
  | [] => none

def hasDiceToken (text : Text) : Bool :=
  let bare := CriticalBlock.strip text
  holdsDiceTerm bare || (numericStart bare).isSome

def isDiceName (name : Text) : Bool :=
  match diceTerm name with
  | some (_, []) => true
  | _ => false

end Tabletop
