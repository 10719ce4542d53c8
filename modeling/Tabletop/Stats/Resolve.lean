import Tabletop.Formula.DiceToken
import Tabletop.Stats.Lookup
import Tabletop.Stats.Reference

/-!
Resolving the references of a formula: dollar references first, then names in parentheses. A
reference that no stat answers stays as it is, and a name that is a dice term is no reference.
-/
namespace Tabletop

/-- A formula with references exchanged, and the capitalized names of the stats used, each once, in
the order of their first use. -/
structure Resolved where
  formula : Text
  matched : List Text
  deriving DecidableEq

/-- Where references are looked up: a sheet, texts that override names, and the least similarity. -/
structure Resolver where
  sheet : StatSheet
  overrides : List (Text × Text) := []
  similarity : Score := Score.half

namespace Resolver

def withOverride (resolver : Resolver) (name text : Text) : Resolver :=
  { resolver with overrides := (name.normalized, text) :: resolver.overrides }

def find? (resolver : Resolver) (term : Text) : Option Found :=
  resolver.sheet.find? term resolver.similarity

def forDollar (resolver : Resolver) (name whole : Text) : Text × Option Text :=
  match resolver.find? name with
  | some found => (found.value.operand, some found.name.capitalized)
  | none => (whole, none)

/-- What stands for a name in parentheses, with the name of the stat used. An override that is empty
takes the sign before the reference with it. -/
def forParen (resolver : Resolver) (sign : Option Text) (name whole : Text) : Text × Option Text :=
  if isDiceName name then (whole, none)
  else match resolver.overrides.lookup name.normalized with
    | some [] => ([], none)
    | some text => (sign.getD [] ++ text, none)
    | none => match resolver.find? name with
      | some found => (sign.getD [] ++ found.value.operand, some found.name.capitalized)
      | none => (whole, none)

def resolve (resolver : Resolver) (formula : Text) : Resolved :=
  let first :=
    dollarReference.substituted (fun name whole => (resolver.forDollar name whole).1) formula
  let second :=
    parenReference.substituted (fun (sign, name) whole => (resolver.forParen sign name whole).1)
      first
  let used :=
    (dollarReference.findings formula).filterMap
        (fun (name, whole) => (resolver.forDollar name whole).2) ++
      (parenReference.findings first).filterMap
        fun ((sign, name), whole) => (resolver.forParen sign name whole).2
  ⟨second, used.eraseDups⟩

end Resolver
end Tabletop
