/-!
Texts as lists of characters, with their length in bytes, the searches that every layer uses,
decimal notation and sets of characters. Main facts: byte length is additive, and a cut at the first
occurrence of a character loses nothing but that character.
-/
namespace Tabletop

abbrev Text := List Char

/-- A string literal stands for its list of characters. -/
instance : Coe String Text := ⟨String.toList⟩

namespace Text

def byteLength : Text → Nat
  | [] => 0
  | c :: text => c.utf8Size + byteLength text

@[simp] theorem byteLength_nil : byteLength [] = 0 := rfl

@[simp] theorem byteLength_cons (c : Char) (text : Text) :
    byteLength (c :: text) = c.utf8Size + byteLength text := rfl

@[simp] theorem byteLength_append (s t : Text) :
    byteLength (s ++ t) = byteLength s + byteLength t := by
  induction s with
  | nil => simp
  | cons c s ih => simp [ih, Nat.add_assoc]

def joined (separator : Text) (parts : List Text) : Text := separator.intercalate parts

def unlessEmpty (text : Text) : Option Text := if text.isEmpty then none else some text

def cutAt? (mark : Char) : Text → Option (Text × Text)
  | [] => none
  | c :: cs =>
    if c = mark then some ([], cs) else (cutAt? mark cs).map fun (before, after) =>
      (c :: before, after)

theorem eq_of_cutAt? {mark : Char} {text before after : Text}
    (found : cutAt? mark text = some (before, after)) :
    text = before ++ mark :: after ∧ mark ∉ before := by
  induction text generalizing before with
  | nil => simp [cutAt?] at found
  | cons c cs ih =>
    by_cases same : c = mark
    · simp only [cutAt?, same, if_true, Option.some.injEq, Prod.mk.injEq] at found
      obtain ⟨rfl, rfl⟩ := found
      simp [same]
    · simp only [cutAt?, same, if_false, Option.map_eq_some_iff, Prod.mk.injEq,
        Prod.exists] at found
      obtain ⟨rest, _, cut, rfl, rfl⟩ := found
      obtain ⟨rfl, fresh⟩ := ih cut
      exact ⟨rfl, by simp [fresh, Ne.symm same]⟩

theorem cutAt?_eq_none_iff {mark : Char} {text : Text} : cutAt? mark text = none ↔ mark ∉ text := by
  induction text with
  | nil => simp [cutAt?]
  | cons c cs ih =>
    by_cases same : c = mark
    · simp [cutAt?, same]
    · simp [cutAt?, same, ih, Ne.symm same]

def after? : Text → Text → Option Text
  | [], text => some text
  | _ :: _, [] => none
  | p :: ps, c :: cs => if p = c then after? ps cs else none

theorem after?_eq_some_iff {start text rest : Text} :
    after? start text = some rest ↔ text = start ++ rest := by
  induction start generalizing text with
  | nil => simp [after?]
  | cons p ps ih =>
    cases text with
    | nil => simp [after?]
    | cons c cs => by_cases same : p = c <;> simp [after?, same, ih, eq_comm]

def cutAround? (part : Text) : Text → Option (Text × Text)
  | [] => (after? part []).map (([], ·))
  | c :: cs => match after? part (c :: cs) with
    | some rest => some ([], rest)
    | none => (cutAround? part cs).map fun (before, after) => (c :: before, after)

def includes (text part : Text) : Bool := (cutAround? part text).isSome

def replaced (part new : Text) (text : Text) : Text := go 0 text
where
  /-- `covered` characters of the part just replaced are still to be passed over. -/
  go (covered : Nat) : Text → Text
    | [] => []
    | c :: cs => match covered with
      | n + 1 => go n cs
      | 0 => match after? part (c :: cs) with
        | some _ => new ++ go (part.length - 1) cs
        | none => c :: go 0 cs

def ofNat (n : Nat) : Text := Nat.toDigits 10 n

def ofInt : Int → Text
  | .ofNat n => ofNat n
  | .negSucc n => '-' :: ofNat (n + 1)

def digitsValue (digits : Text) : Nat := Nat.ofDigitChars 10 digits 0

theorem ofNat_ne_nil (n : Nat) : ofNat n ≠ [] := Nat.toDigits_ne_nil

theorem isDigit_of_mem_ofNat {n : Nat} {c : Char} (member : c ∈ ofNat n) : c.isDigit = true :=
  Nat.isDigit_of_mem_toDigits (by decide) (by decide) member

theorem digitsValue_ofNat (n : Nat) : digitsValue (ofNat n) = n :=
  Nat.ofDigitChars_toDigits (by decide) (by decide)

def intValue? (text : Text) : Option Int :=
  let (negative, digits) := match text with
    | '-' :: digits => (true, digits)
    | '+' :: digits => (false, digits)
    | digits => (false, digits)
  if digits.isEmpty || !digits.all Char.isDigit then none
  else some (if negative then -(digitsValue digits : Int) else digitsValue digits)

end Text

/-- A set of characters: the code points at which membership changes, strictly rising. -/
structure CharSet where
  bounds : List Nat

namespace CharSet

def covers (code : Nat) : List Nat → Bool
  | [] => false
  | first :: rest => if code < first then false else !covers code rest

def contains (set : CharSet) (c : Char) : Bool := covers c.toNat set.bounds

theorem covers_of_lt {code first : Nat} {rest : List Nat} (below : code < first) :
    covers code (first :: rest) = false := by
  simp [covers, below]

end CharSet
end Tabletop
