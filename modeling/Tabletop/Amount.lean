import Tabletop.Text.Basic

/-!
Amounts: the whole numbers that a total, a threshold or a stat can be. Arithmetic is exact on the
integers and refuses a result that is no amount; it never wraps.
-/
namespace Tabletop

/-- A whole number of 32 bits with sign. -/
structure Amount where
  value : Int
  lower : -2147483648 ≤ value
  upper : value ≤ 2147483647

namespace Amount

theorem ext {a b : Amount} (same : a.value = b.value) : a = b := by
  cases a
  cases b
  cases same
  rfl

instance : DecidableEq Amount := fun a b =>
  if same : a.value = b.value then isTrue (ext same)
  else isFalse fun equal => same (congrArg value equal)

def ofInt? (n : Int) : Option Amount :=
  if fits : -2147483648 ≤ n ∧ n ≤ 2147483647 then some ⟨n, fits.1, fits.2⟩ else none

theorem ofInt?_eq_some_iff {n : Int} {a : Amount} : ofInt? n = some a ↔ a.value = n := by
  unfold ofInt?
  split
  · constructor
    · intro found
      cases found
      rfl
    · intro same
      exact congrArg some (ext same.symm)
  · rename_i outside
    constructor
    · intro found
      cases found
    · intro same
      exact absurd ⟨same ▸ a.lower, same ▸ a.upper⟩ outside

def ofSum (n : Nat) (small : n ≤ 65535) : Amount := ⟨n, by omega, by omega⟩

def text (a : Amount) : Text := Text.ofInt a.value

def operand (a : Amount) : Text := if a.value < 0 then '(' :: a.text ++ [')'] else a.text

end Amount
end Tabletop
