import Mathlib.Data.List.TakeWhile
import Tabletop.Proofs.Reading.Combinators
import Tabletop.Proofs.Reading.Sentence

/-! Numbers, modifiers and dice terms: a reader takes a first part of the text that is a term, and
takes all of a term when what follows cannot belong to it. -/
namespace Tabletop

theorem Text.span_append {p : Char → Bool} {text rest : Text} (inside : ∀ c ∈ text, p c = true)
    (stop : ∀ c ∈ rest.head?, p c = false) :
    (text ++ rest).takeWhile p = text ∧ (text ++ rest).dropWhile p = rest := by
  rw [List.takeWhile_append_of_pos inside, List.dropWhile_append_of_pos inside]
  cases rest with
  | nil => simp
  | cons c rest => simp [stop c rfl]

def NoDigit (text : Text) : Prop := ∀ c ∈ text.head?, c.isDigit = false

/-- The text does not go on with a letter or a digit. -/
def Apart (text : Text) : Prop := ∀ c ∈ text.head?, c.isAlphanum = false

theorem Apart.noDigit {text : Text} (apart : Apart text) : NoDigit text := by
  intro c first
  have other := apart c first
  simp only [Char.isAlphanum, Bool.or_eq_false_iff] at other
  exact other.2

theorem Apart.ne_of_alpha {text : Text} (apart : Apart text) {c : Char}
    (letter : c.isAlpha = true) : text.head? ≠ some c := by
  intro first
  have other := apart c first
  simp only [Char.isAlphanum, letter, Bool.true_or, Bool.true_eq_false] at other

theorem Numeral.ne_nil {text : Text} (numeral : Numeral text) : text ≠ [] := by
  cases numeral <;> simp

theorem Numeral.isDigit {text : Text} (numeral : Numeral text) : ∀ c ∈ text, c.isDigit = true := by
  cases numeral with
  | zero => simp
  | digits _ digits => exact digits

namespace Reader

theorem digits_sound {text digits rest : Text} (reads : Reader.digits text = some (digits, rest)) :
    Numeral digits ∧ text = digits ++ rest := by
  cases text with
  | nil => simp [Reader.digits] at reads
  | cons c cs =>
    simp only [Reader.digits] at reads
    split at reads
    · rename_i zero
      cases reads
      exact ⟨zero ▸ .zero, rfl⟩
    · rename_i positive
      split at reads
      · rename_i digit
        cases reads
        refine ⟨.digits positive ?_, by simp⟩
        intro d member
        rcases List.mem_cons.mp member with rfl | later
        · exact digit
        · exact List.mem_takeWhile_imp later
      · contradiction

theorem digits_append {numeral rest : Text} (valid : Numeral numeral) (stop : NoDigit rest) :
    Reader.digits (numeral ++ rest) = some (numeral, rest) := by
  cases valid with
  | zero => simp [Reader.digits]
  | @digits c cs positive digits =>
    have first : c.isDigit = true := digits c (List.mem_cons_self)
    have others : ∀ d ∈ cs, d.isDigit = true :=
      fun d member => digits d (List.mem_cons_of_mem c member)
    obtain ⟨taken, dropped⟩ := Text.span_append others stop
    simp only [List.cons_append, Reader.digits, positive, if_false, first, if_true, taken, dropped]

theorem digits_of_noDigit {text : Text} (stop : NoDigit text) : Reader.digits text = none := by
  cases text with
  | nil => rfl
  | cons c cs =>
    have other : c.isDigit = false := stop c rfl
    have positive : c ≠ '0' := by
      rintro rfl
      contradiction
    simp [Reader.digits, positive, other]

theorem smallNumber_sound {text rest : Text} {n : UInt8}
    (reads : smallNumber text = some (n, rest)) :
    ∃ part, SmallNumber part n ∧ text = part ++ rest := by
  simp only [smallNumber, Option.bind_eq_bind, Option.bind_eq_some_iff, Prod.exists] at reads
  obtain ⟨part, after, found, reads⟩ := reads
  split at reads
  · rename_i small
    cases reads
    have value : (UInt8.ofNat (Text.digitsValue part)).toNat = Text.digitsValue part :=
      UInt8.toNat_ofNat_of_lt (Nat.lt_succ_of_le small)
    exact ⟨part, ⟨(digits_sound found).1, value.symm⟩, (digits_sound found).2⟩
  · contradiction

theorem smallNumber_append {part rest : Text} {n : UInt8} (number : SmallNumber part n)
    (stop : NoDigit rest) : smallNumber (part ++ rest) = some (n, rest) := by
  have small : n.toNat ≤ 255 := Nat.le_of_lt_succ n.toNat_lt
  simp only [smallNumber, digits_append number.1 stop, Option.bind_eq_bind, Option.bind_some,
    number.2, small, if_true, UInt8.ofNat_toNat]

theorem smallNumber_of_noDigit {text : Text} (stop : NoDigit text) : smallNumber text = none := by
  simp only [smallNumber, digits_of_noDigit stop, Option.bind_eq_bind, Option.bind_none]

theorem optionalNumber_sound (text : Text) :
    ∃ part, OptionalNumber part (optional smallNumber text).1 ∧
      text = part ++ (optional smallNumber text).2 := by
  unfold optional
  split
  · rename_i n rest reads
    obtain ⟨part, number, rfl⟩ := smallNumber_sound reads
    exact ⟨part, .present number, rfl⟩
  · exact ⟨[], .absent, rfl⟩

theorem optionalNumber_append {part rest : Text} {n : Option UInt8} (number : OptionalNumber part n)
    (stop : NoDigit rest) : optional smallNumber (part ++ rest) = (n, rest) := by
  cases number with
  | absent => simp only [optional, List.nil_append, smallNumber_of_noDigit stop]
  | present number => simp only [optional, smallNumber_append number stop]

theorem sides_sound {text rest : Text} {n : UInt8} (reads : sides text = some (n, rest)) :
    ∃ part, SidesTerm part n ∧ text = part ++ rest := by
  rcases or_eq_some_iff.mp reads with found | ⟨_, found⟩
  · obtain ⟨part, number, rfl⟩ := smallNumber_sound found
    exact ⟨part, .number number, rfl⟩
  · obtain ⟨u, percent, rfl⟩ := map_eq_some_iff.mp found
    exact ⟨['%'], .percent, char_eq_some_iff.mp percent⟩

theorem sides_append {part rest : Text} {n : UInt8} (term : SidesTerm part n)
    (stop : NoDigit rest) : sides (part ++ rest) = some (n, rest) := by
  cases term with
  | number number => exact or_of_some (smallNumber_append number stop)
  | percent =>
    have none : smallNumber ('%' :: rest) = none := smallNumber_of_noDigit (by simp [NoDigit])
    exact (or_of_none none).trans (map_eq_some_iff.mpr ⟨(), char_eq_some_iff.mpr rfl, rfl⟩)

end Reader
end Tabletop
