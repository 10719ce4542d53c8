import Tabletop.Comparator.Clause
import Tabletop.Text.Scan

/-!
The comparator inside a formula: a sign and everything up to the next semicolon. Where a sign can be
read in two ways the longer one is taken, unless it leaves no value.
-/
namespace Tabletop

def signedValue (close : Char) : Reader (Sign × Text) := fun text =>
  (Sign.leading text).findSome? fun (sign, rest) =>
    let value := rest.takeWhile (· ≠ close)
    if value.isEmpty then none else some ((sign, value), rest.dropWhile (· ≠ close))

namespace Comparator

def inFormula : Reader (Sign × Text) := signedValue ';'

def extractBy (reader : Reader (Sign × Text)) (formula : Text) : Text × Text :=
  match reader.first? formula with
  | none => (formula, [])
  | some found => (found.before ++ found.after, found.value.1.symbol ++ found.value.2.trim)

def extract (formula : Text) : Text × Text := extractBy inFormula formula

theorem extract_of_none {formula : Text} (unfound : inFormula.first? formula = none) :
    extract formula = (formula, []) := by
  simp only [extract, extractBy, unfound]

theorem extract_of_first? {formula : Text} {found : Occurrence (Sign × Text)}
    (first : inFormula.first? formula = some found) :
    extract formula =
      (found.before ++ found.after, found.value.1.symbol ++ found.value.2.trim) := by
  simp only [extract, extractBy, first]

def startsWithSign (text : Text) : Bool := !(Sign.leading text.trimStart).isEmpty

/-- The formula with its threshold overridden. An override that starts with a sign replaces the
comparator or is appended; any other replaces the value of a comparator that is there. -/
def overridden (override : Option Text) (formula : Text) : Text :=
  let new := (override.getD []).trim
  if new.isEmpty then formula
  else
    match inFormula.first? formula with
    | some found =>
      if startsWithSign new then found.before ++ new ++ found.after
      else found.before ++ found.value.1.symbol ++ new ++ found.after
    | none => if startsWithSign new then formula ++ new else formula

end Comparator
end Tabletop
