import Tabletop.Dice.Basic

/-!
Sources of die faces. A queue hands out given faces and ends; a stream is endless and fixes the face
of every die by its number and its sides. A source only moves forward, so what a roll consumed is a
first part of what it had.
-/
namespace Tabletop

inductive Faces where
  | queue (faces : List UInt8)
  /-- The face of the die with each number and number of sides, and the number of the next die. -/
  | stream (face : Nat → UInt8 → UInt8) (next : Nat)

namespace Faces

def highest : Faces := .stream (fun _ sides => sides) 0

def mixed (seed : UInt64) (number : Nat) : UInt64 :=
  let z := seed + (number + 1).toUInt64 * 0x9E3779B97F4A7C15
  let z := (z ^^^ (z >>> 30)) * 0xBF58476D1CE4E5B9
  let z := (z ^^^ (z >>> 27)) * 0x94D049BB133111EB
  z ^^^ (z >>> 31)

def faceOf (drawn : UInt64) (sides : UInt8) : UInt8 :=
  if sides = 0 then 0 else UInt8.ofNat ((drawn >>> 16).toNat % sides.toNat + 1)

def seeded (seed : UInt64) : Faces :=
  .stream (fun number sides => faceOf (mixed seed number) sides) 0

def next? (faces : Faces) (sides : UInt8) : Option (UInt8 × Faces) :=
  match faces with
  | queue [] => none
  | queue (face :: rest) => some (face, queue rest)
  | stream face next => some (face next sides, stream face (next + 1))

def draw (sides : UInt8) : Nat → Faces → List UInt8 × Faces
  | 0, faces => ([], faces)
  | count + 1, faces => match faces.next? sides with
    | none => ([], faces)
    | some (face, rest) =>
      let (others, last) := draw sides count rest
      (face :: others, last)

def canRoll : Faces → Bool
  | queue faces => !faces.isEmpty
  | stream _ _ => true

/-- A number of passes after which rolling on is given up. A queue ends sooner, since a pass rolls
at least one die. -/
def patience : Faces → Nat
  | queue faces => faces.length + 1
  | stream _ _ => 1000000

end Faces
end Tabletop
