import Tabletop.Text.Basic

/-!
Blank characters and the ends of a text. The blanks are the characters with the property
White_Space; trimming removes them from the ends and `collapsed` writes each inner run as one space.
-/
namespace Tabletop

/-- The characters with the property White_Space. -/
def isBlank (c : Char) : Bool :=
  let n := c.toNat
  (9 ≤ n && n ≤ 13) || n == 0x20 || n == 0x85 || n == 0xA0 || n == 0x1680 ||
    (0x2000 ≤ n && n ≤ 0x200A) || n == 0x2028 || n == 0x2029 || n == 0x202F || n == 0x205F ||
    n == 0x3000

namespace Text

def trimStart (text : Text) : Text := text.dropWhile isBlank

def trimEnd (text : Text) : Text := (text.reverse.dropWhile isBlank).reverse

def trim (text : Text) : Text := text.trimStart.trimEnd

def collapsed : Text → Text
  | [] => []
  | c :: cs =>
    if isBlank c then
      if (cs.head?.map isBlank).getD false then collapsed cs else ' ' :: collapsed cs
    else c :: collapsed cs

def allBlank (text : Text) : Bool := text.all isBlank

def withoutLeading (mark : Char) (text : Text) : Text := text.dropWhile (· == mark)

end Text
end Tabletop
