import Tabletop.Sign
import Tabletop.Text.Reader

/-!
Comparator clauses as written: a sign with its value, and perhaps a second sign and value. A value
holds no sign character, so the signs are read longest first, and a value that is blank makes no
clause.
-/
namespace Tabletop

/-- A sign and the text of its value, with the sign and value that oppose it. -/
structure Clause where
  sign : Sign
  value : Text
  opposition : Option (Sign × Text)
  deriving DecidableEq

namespace Clause

def part : Reader (Sign × Text) := fun text => do
  let (sign, rest) ← (Sign.leading text).head?
  let value := rest.takeWhile fun c => !Sign.isSignChar c
  if value.isEmpty then none else some ((sign, value), rest.dropWhile fun c => !Sign.isSignChar c)

def parts? (text : Text) : Option ((Sign × Text) × Option (Sign × Text)) := do
  let (first, rest) ← part text
  if rest.isEmpty then some (first, none)
  else
    let (second, rest) ← part rest
    if rest.isEmpty then some (first, some second) else none

def parse? (text : Text) : Option Clause := do
  let ((sign, value), second) ← parts? text.trim
  if value.trim.isEmpty then none
  else some ⟨sign, value.trim, second.bind fun (sign, value) =>
    if value.trim.isEmpty then none else some (sign, value.trim)⟩

def text (clause : Clause) : Text :=
  clause.sign.symbol ++ clause.value ++
    match clause.opposition with
    | some (sign, value) => sign.symbol ++ value
    | none => []

end Clause
end Tabletop
