import Tabletop.Comparator.Extract

/-!
Inline critical blocks, such as a brace with `cs:>=19` or `*cf:<=$luck`. The letters are read in
either case, and the long s counts as an s of the other kind.
-/
namespace Tabletop

inductive CriticalKind where
  | success | failure
  deriving DecidableEq

/-- An inline critical block: its kind, sign and value text, and whether it looks at the natural
dice. -/
structure CriticalBlock where
  kind : CriticalKind
  sign : Sign
  value : Text
  onNaturalDie : Bool
  deriving DecidableEq

namespace CriticalBlock

def kindOf? (c : Char) : Option CriticalKind :=
  if c = 's' || c = 'S' then some .success
  else if c = 'f' || c = 'F' || c = 'ſ' then some .failure
  else none

def reader : Reader CriticalBlock := fun text => do
  let (_, rest) ← Reader.char '\x7b' text
  let (star, rest) := Reader.optional (Reader.char '*') rest
  match rest with
  | c :: k :: ':' :: rest =>
    if c = 'c' || c = 'C' then
      let kind ← kindOf? k
      let ((sign, value), rest) ← signedValue '\x7d' rest
      let (_, rest) ← Reader.char '\x7d' rest
      some (⟨kind, sign, value, star.isNone⟩, rest)
    else none
  | _ => none

def findAll (formula : Text) : List CriticalBlock :=
  (reader.findings formula).map fun (block, _) => { block with value := block.value.trim }

def strip (formula : Text) : Text := reader.erased formula

def text (block : CriticalBlock) : Text :=
  '\x7b' :: (if block.onNaturalDie then [] else ['*']) ++
    'c' :: (match block.kind with | .success => 's' | .failure => 'f') :: ':' ::
      block.sign.symbol ++ block.value ++ ['\x7d']

end CriticalBlock
end Tabletop
