import Tabletop.Text.Basic

/-!
How alike two names are: one less the edit distance divided by the greater length. Scores are binary
numbers of 53 significant bits, counted exactly in units of 2^-1074, and both the quotient and the
difference are rounded to the nearest one.
-/
namespace Tabletop

/-- A score or a threshold for scores, in units of 2^-1074. -/
abbrev Score := Int

namespace Score

def roundQuotient (num den : Nat) : Nat :=
  let q := num / den
  let twice := 2 * (num % den)
  if twice < den || (twice == den && q % 2 == 0) then q else q + 1

/-- The number of at most 53 significant bits nearest to a quotient, in units of 2^-1074. -/
def nearest (num den : Nat) : Nat :=
  let whole := num * Nat.pow 2 1074 / den
  let excess := Nat.pow 2 (whole.log2 - 52)
  roundQuotient (num * Nat.pow 2 1074) (den * excess) * excess

def one : Nat := Nat.pow 2 1074

def half : Score := Int.ofNat (Nat.pow 2 1073)

/-- The score with the bits of a binary number of double precision. What is no number counts as
zero: no score is below either. -/
def ofBits (bits : UInt64) : Score :=
  let exponent := (bits >>> 52).toNat % 2048
  let fraction := bits.toNat % Nat.pow 2 52
  let size : Nat :=
    if exponent = 2047 ∧ fraction ≠ 0 then 0
    else if exponent = 0 then fraction
    else (Nat.pow 2 52 + fraction) * Nat.pow 2 (exponent - 1)
  if bits.toNat < Nat.pow 2 63 then Int.ofNat size else -Int.ofNat size

def ofDistance (distance length : Nat) : Score :=
  Int.ofNat (if length = 0 then one else nearest (one - nearest distance length) one)

end Score

namespace Text

/-- The distances to the beginnings of a text after one more character; `row` holds those before it
and `left` the distance just found. -/
def distanceRow (c : Char) : Text → List Nat → Nat → List Nat
  | b :: bs, diagonal :: above :: row, left =>
    let here := min (min (above + 1) (left + 1)) (if b = c then diagonal else diagonal + 1)
    here :: distanceRow c bs (above :: row) here
  | _, _, _ => []

def editDistance (a b : Text) : Nat :=
  let step (row : List Nat) (c : Char) : List Nat :=
    let first := row.headD 0 + 1
    first :: distanceRow c b row first
  (a.foldl step (List.range (b.length + 1))).getLastD 0

def similarity (a b : Text) : Score := Score.ofDistance (editDistance a b) (max a.length b.length)

end Text
end Tabletop
