import Mathlib.Data.List.Infix
import Tabletop.Proofs.Composing.Resolving

/-! Where the comparator of a text starts. It starts at the first place with a sign and a character
of a value, so whether a text in front of it stays in front of it depends on what the two make where
they meet: a comparator that starts only with the text behind is a sign that reaches over the
seam. -/
namespace Tabletop

namespace Sign

theorem single_or_notEqual {sign : Sign} {c d : Char} {rest : Text}
    (starts : sign.symbol <+: c :: d :: rest) :
    (∃ single : Sign, single.symbol = [c]) ∨ c = '!' ∧ d = '=' := by
  obtain ⟨more, split⟩ := starts
  cases sign with
  | less | atMost => exact .inl ⟨.less, by cases split; rfl⟩
  | greater | atLeast => exact .inl ⟨.greater, by cases split; rfl⟩
  | equal | same => exact .inl ⟨.equal, by cases split; rfl⟩
  | notEqual => exact .inr (by cases split; exact ⟨rfl, rfl⟩)

end Sign

namespace Comparator

variable {text before next other formula value rest : Text} {sign : Sign}

structure Written (sign : Sign) (value text : Text) : Prop where
  split : text = sign.symbol ++ value
  ne_nil : value ≠ []
  whole : ';' ∉ value

/-- The text starts with a sign and a character of a value. -/
def Opens (text : Text) : Prop :=
  ∃ (sign : Sign) (c : Char) (rest : Text), text = sign.symbol ++ c :: rest ∧ c ≠ ';'

theorem Opens.append (opens : Opens text) (more : Text) : Opens (text ++ more) := by
  obtain ⟨sign, c, rest, rfl, visible⟩ := opens
  exact ⟨sign, c, rest ++ more, by simp, visible⟩

theorem exists_inFormula_iff : (∃ reading, inFormula text = some reading) ↔ Opens text := by
  constructor
  · rintro ⟨⟨⟨sign, value⟩, rest⟩, reads⟩
    obtain ⟨split, nonempty, fresh⟩ := eq_of_signedValue reads
    obtain ⟨c, cs, rfl⟩ := List.exists_cons_of_ne_nil nonempty
    exact ⟨sign, c, cs ++ rest, split, fun same => fresh (same ▸ List.mem_cons_self)⟩
  · rintro ⟨sign, c, rest, split, other⟩
    have leads := Sign.mem_leading_iff.mpr split
    rw [← Option.isSome_iff_exists, inFormula, signedValue, List.findSome?_isSome_iff]
    exact ⟨_, leads, by simp [other]⟩

theorem inFormula_eq_none_iff : inFormula text = none ↔ ¬ Opens text := by
  rw [← exists_inFormula_iff, ← Option.isSome_iff_exists, Option.not_isSome_iff_eq_none]

theorem not_mem_symbol_append (whole : ';' ∉ value) : ';' ∉ sign.symbol ++ value := fun member =>
  (List.mem_append.mp member).elim (not_mem_symbol (by decide) sign) whole

theorem spelled_of_inFormula (reads : inFormula text = some ((sign, value), rest)) :
    text.takeWhile (· ≠ ';') = sign.symbol ++ value ∧ text.dropWhile (· ≠ ';') = rest := by
  obtain ⟨split, _, fresh⟩ := eq_of_signedValue reads
  rw [split, ← List.append_assoc]
  exact Text.span_of_not_mem (not_mem_symbol_append fresh) (rest_eq_of_signedValue reads)

theorem Written.not_mem (written : Written sign value text) : ';' ∉ text := by
  rw [written.split]
  exact not_mem_symbol_append written.whole

theorem Written.opens (written : Written sign value text) (rest : Text) : Opens (text ++ rest) := by
  obtain ⟨rfl, nonempty, whole⟩ := written
  obtain ⟨c, cs, rfl⟩ := List.exists_cons_of_ne_nil nonempty
  have opens : Opens (sign.symbol ++ c :: cs) :=
    ⟨sign, c, cs, rfl, fun same => whole (same ▸ List.mem_cons_self)⟩
  exact opens.append rest

theorem Written.reads (written : Written sign value text)
    (ends : rest = [] ∨ ∃ more, rest = ';' :: more) :
    ∃ found : Sign × Text, inFormula (text ++ rest) = some (found, rest) ∧
      found.1.symbol ++ found.2 = text := by
  obtain ⟨⟨found, behind⟩, reads⟩ := exists_inFormula_iff.mpr (written.opens rest)
  obtain ⟨spelled, left⟩ := spelled_of_inFormula reads
  obtain ⟨taken, dropped⟩ := Text.span_of_not_mem written.not_mem ends
  obtain rfl : rest = behind := dropped.symm.trans left
  exact ⟨found, reads, spelled.symm.trans taken⟩

/-- Nothing in the first text starts a comparator, with the other text behind it. -/
def Closed (before next : Text) : Prop :=
  ∀ part : Text, part ≠ [] → part <:+ before → ¬ Opens (part ++ next)

theorem Closed.alone (closed : Closed before next) : Closed before [] := by
  intro part nonempty suffix opens
  rw [List.append_nil] at opens
  exact closed part nonempty suffix (opens.append next)

theorem first?_eq_none_iff : inFormula.first? formula = none ↔ Closed formula [] := by
  constructor
  · rintro unfound part nonempty ⟨before, split⟩
    obtain ⟨c, cs, rfl⟩ := List.exists_cons_of_ne_nil nonempty
    rw [List.append_nil]
    exact inFormula_eq_none_iff.mp (Reader.never_of_first?_eq_none unfound split.symm)
  · intro closed
    refine Reader.first?_eq_none fun before c after split => inFormula_eq_none_iff.mpr ?_
    simpa using closed (c :: after) (List.cons_ne_nil c after) ⟨before, split.symm⟩

structure Found (formula : Text) (found : Occurrence (Sign × Text)) : Prop where
  split : formula = found.before ++ (found.value.1.symbol ++ found.value.2 ++ found.after)
  written : Written found.value.1 found.value.2 (found.value.1.symbol ++ found.value.2)
  ends : found.after = [] ∨ ∃ more, found.after = ';' :: more
  closed : Closed found.before (found.value.1.symbol ++ found.value.2 ++ found.after)

theorem found_of_first? {found : Occurrence (Sign × Text)}
    (first : inFormula.first? formula = some found) : Found formula found := by
  obtain ⟨start, split, reads⟩ := Reader.exists_of_first? first
  obtain ⟨whole, nonempty, fresh⟩ := eq_of_signedValue reads
  rw [← List.append_assoc] at whole
  subst whole
  refine ⟨split, ⟨rfl, nonempty, fresh⟩, rest_eq_of_signedValue reads, ?_⟩
  rintro part nonempty ⟨before, whole⟩
  obtain ⟨c, cs, rfl⟩ := List.exists_cons_of_ne_nil nonempty
  exact inFormula_eq_none_iff.mp (Reader.never_before_first? first split whole.symm)

theorem first?_of_closed {found : Sign × Text} (closed : Closed before text)
    (reads : inFormula text = some (found, rest)) :
    inFormula.first? (before ++ text) = some ⟨before, found, Reader.taken text rest, rest⟩ := by
  cases text with
  | nil => cases reads
  | cons c cs =>
    refine Reader.first?_append_of_reads reads fun earlier d later split =>
      inFormula_eq_none_iff.mpr ?_
    exact closed (d :: later) (List.cons_ne_nil d later) ⟨earlier, split.symm⟩

theorem closed_of_signless (signless : ∀ c ∈ before, Sign.isSignChar c = false) (next : Text) :
    Closed before next := by
  rintro part nonempty suffix ⟨sign, c, rest, split, _⟩
  obtain ⟨d, more, rfl⟩ := List.exists_cons_of_ne_nil nonempty
  obtain ⟨e, _, symbol, isSign, _⟩ := sign.symbol_head
  rw [symbol] at split
  obtain ⟨rfl, _⟩ := List.cons.inj split
  rw [signless d (suffix.subset List.mem_cons_self)] at isSign
  contradiction

/-- The last character of the text makes a sign, by itself or with the first of the next text. -/
def JoinsSign (before next : Text) : Prop :=
  ∃ (front : Text) (c : Char) (sign : Sign), before = front ++ [c] ∧ sign.symbol <+: c :: next

theorem JoinsSign.of_append (nonempty : next ≠ []) (joins : JoinsSign before (next ++ rest)) :
    JoinsSign before next := by
  obtain ⟨front, c, sign, split, starts⟩ := joins
  obtain ⟨d, more, rfl⟩ := List.exists_cons_of_ne_nil nonempty
  refine ⟨front, c, sign, split, List.prefix_of_prefix_length_le starts ⟨rest, rfl⟩ ?_⟩
  exact Nat.le_trans sign.length_symbol_le (by simp)

theorem exists_symbol_of_opens (shut : ¬ Opens (text ++ next)) (opens : Opens (text ++ other)) :
    ∃ sign : Sign, text <+: sign.symbol ∧ sign.symbol <+: text ++ other := by
  obtain ⟨sign, c, rest, split, visible⟩ := opens
  refine ⟨sign, ?_, ⟨c :: rest, split.symm⟩⟩
  rcases List.append_eq_append_iff.mp split with ⟨mid, symbol, _⟩ | ⟨mid, rfl, behind⟩
  · exact ⟨mid, symbol.symm⟩
  · cases mid with
    | nil => exact ⟨[], by simp⟩
    | cons d mid =>
      obtain ⟨rfl, _⟩ := List.cons.inj behind
      have inside : Opens (sign.symbol ++ c :: mid) := ⟨sign, c, mid, rfl, visible⟩
      exact absurd (inside.append next) shut

theorem Closed.of_apart (closed : Closed before next) (apart : ¬ JoinsSign before other) :
    Closed before other := by
  rintro part nonempty ⟨front, rfl⟩ opens
  obtain ⟨sign, inside, starts⟩ := exists_symbol_of_opens (closed part nonempty ⟨front, rfl⟩) opens
  have short : part.length ≤ 2 := Nat.le_trans inside.length_le sign.length_symbol_le
  rcases part with _ | ⟨c, _ | ⟨d, _ | ⟨e, more⟩⟩⟩
  · contradiction
  · exact apart ⟨front, c, sign, rfl, starts⟩
  · -- A sign of two characters ends with `=`, which is a sign by itself.
    obtain rfl : d = '=' := by cases sign <;> simp_all [Sign.symbol]
    exact apart ⟨front ++ [c], '=', .equal, by simp, ⟨other, rfl⟩⟩
  · simp at short

theorem Closed.apart (closed : Closed before (text ++ rest)) (written : Written sign value text)
    (other : Text) : ¬ JoinsSign before (sign.symbol ++ other) := by
  obtain ⟨rfl, nonempty, whole⟩ := written
  rintro ⟨front, c, joined, rfl, starts⟩
  refine closed [c] (List.cons_ne_nil c []) ⟨front, rfl⟩ ?_
  obtain ⟨d, ds, rfl⟩ := List.exists_cons_of_ne_nil nonempty
  have visible : d ≠ ';' := fun same => whole (same ▸ List.mem_cons_self)
  obtain ⟨e, more, symbol, isSign, _⟩ := sign.symbol_head
  have signed : e ≠ ';' := by
    rintro rfl
    contradiction
  rw [symbol] at starts ⊢
  rcases joined.single_or_notEqual starts with ⟨single, same⟩ | ⟨rfl, rfl⟩
  · exact ⟨single, e, more ++ (d :: ds ++ rest), by simp [same], signed⟩
  -- `!` starts no other sign than `!=`, and what follows that is the value or another `=`.
  · obtain rfl | rfl : more = [] ∨ more = ['='] := by cases sign <;> cases symbol <;> simp
    · exact ⟨.notEqual, d, ds ++ rest, rfl, visible⟩
    · exact ⟨.notEqual, '=', d :: (ds ++ rest), rfl, by decide⟩

theorem before_eq_of_first? {found : Occurrence (Sign × Text)} (closed : Closed before next)
    (ends : rest = [] ∨ ∃ more, rest = ';' :: more)
    (first : inFormula.first? (before ++ (found.value.1.symbol ++ found.value.2 ++ rest)) =
      some found) :
    found.before = before := by
  obtain ⟨split, written, stops, earlier⟩ := found_of_first? first
  rcases List.append_eq_append_iff.mp split with ⟨part, same, behind⟩ | ⟨part, same, behind⟩
  · -- It would be found behind the place where it stands.
    by_cases empty : part = []
    · rw [same, empty, List.append_nil]
    · exact absurd (written.opens rest) (behind ▸ earlier part empty ⟨before, same.symm⟩)
  · -- It would start before that place, and so be longer.
    by_cases empty : part = []
    · rw [same, empty, List.append_nil]
    · have opens := written.opens found.after
      rw [behind] at opens
      obtain ⟨sign, inside, _⟩ :=
        exists_symbol_of_opens (closed part empty ⟨found.before, same.symm⟩) opens
      have unparted : ';' ∉ part ++ (found.value.1.symbol ++ found.value.2) := fun member =>
        (List.mem_append.mp member).elim
          (fun member => not_mem_symbol (by decide) sign (inside.subset member)) written.not_mem
      have longer := (Text.span_of_not_mem written.not_mem stops).1
      rw [behind, ← List.append_assoc part, (Text.span_of_not_mem unparted ends).1,
        List.append_left_eq_self] at longer
      contradiction

end Comparator
end Tabletop
