import Mathlib.Data.List.DropRight
import Tabletop.Proofs.Reading.DiceTerms

/-! Blanks around a term, and operators between them. A reader that passes over blanks reads the
same with more of them in front, and leaves none behind. -/
namespace Tabletop

namespace Text

theorem not_mem_of_all {p : Char → Bool} {text : Text} (inside : text.all p = true) {c : Char}
    (foreign : p c = false) : c ∉ text := fun member => by
  rw [List.all_eq_true.mp inside c member] at foreign
  cases foreign

theorem allBlank_of_subset {text more : Text} (blank : more.allBlank = true)
    (inside : text ⊆ more) : text.allBlank = true :=
  List.all_eq_true.mpr fun c member => List.all_eq_true.mp blank c (inside member)

theorem allBlank_cons_iff {c : Char} {text : Text} :
    allBlank (c :: text) = true ↔ isBlank c = true ∧ text.allBlank = true := by
  rw [allBlank, List.all_cons, Bool.and_eq_true, allBlank]

theorem allBlank_append_iff {text more : Text} :
    allBlank (text ++ more) = true ↔ text.allBlank = true ∧ more.allBlank = true := by
  rw [allBlank, List.all_append, Bool.and_eq_true, allBlank, allBlank]

theorem trimStart_append {before text : Text} (blank : before.allBlank = true) :
    (before ++ text).trimStart = text.trimStart :=
  List.dropWhile_append_of_pos (List.all_eq_true.mp blank)

theorem trimStart_cons {c : Char} {text : Text} (visible : isBlank c = false) :
    trimStart (c :: text) = c :: text := by
  simp [trimStart, visible]

theorem trimStart_trimStart (text : Text) : text.trimStart.trimStart = text.trimStart :=
  List.dropWhile_idempotent _ _

theorem visible_of_trimStart {text rest : Text} {c : Char} (start : text.trimStart = c :: rest) :
    isBlank c = false := by
  have head := List.head?_dropWhile_not isBlank text
  rw [← trimStart, start] at head
  simpa using head

theorem exists_blank_append (text : Text) :
    ∃ before : Text, before.allBlank = true ∧ text = before ++ text.trimStart := by
  refine ⟨text.takeWhile isBlank, ?_, List.takeWhile_append_dropWhile.symm⟩
  exact List.all_eq_true.mpr fun c member => List.mem_takeWhile_imp member

end Text

theorem isAlphanum_of_isBlank {c : Char} (blank : isBlank c = true) : c.isAlphanum = false := by
  simp only [isBlank, Bool.or_eq_true, Bool.and_eq_true, decide_eq_true_eq, beq_iff_eq] at blank
  have code : c.toNat = c.val.toNat := rfl
  change (decide (c.val ≥ 'A'.val ∧ c.val ≤ 'Z'.val) ||
    (decide (c.val ≥ 'a'.val) && decide (c.val ≤ 'z'.val)) ||
    (decide (c.val ≥ '0'.val) && decide (c.val ≤ '9'.val))) = false
  simp only [Bool.or_eq_false_iff, Bool.and_eq_false_iff, decide_eq_false_iff_not,
    UInt32.le_iff_toNat_le, ge_iff_le]
  refine ⟨⟨?_, ?_⟩, ?_⟩ <;> (simp; omega)

theorem isBlank_of_isDigit {c : Char} (digit : c.isDigit = true) : isBlank c = false := by
  apply Bool.eq_false_iff.mpr
  intro blank
  have other := isAlphanum_of_isBlank blank
  rw [Char.isAlphanum, digit, Bool.or_true] at other
  cases other

theorem Apart.blank_append {after rest : Text} (blank : after.allBlank = true)
    (apart : Apart rest) : Apart (after ++ rest) := by
  cases after with
  | nil => exact apart
  | cons c cs =>
    intro d first
    cases Option.some.inj first
    exact isAlphanum_of_isBlank (List.all_eq_true.mp blank c List.mem_cons_self)

theorem Spaced.refl (text : Text) : Spaced text text :=
  ⟨[], [], rfl, rfl, (List.append_nil text).symm⟩

theorem Spaced.not_mem {core text : Text} (spaced : Spaced core text) {m : Char}
    (visible : isBlank m = false) (fresh : m ∉ core) : m ∉ text := by
  obtain ⟨before, after, starts, ends, rfl⟩ := spaced
  have leading := Text.not_mem_of_all starts visible
  have trailing := Text.not_mem_of_all ends visible
  simp [fresh, leading, trailing]

theorem Spaced.allBlank_eq_false {core text : Text} (spaced : Spaced core text) {c : Char}
    (first : c ∈ core.head?) (visible : isBlank c = false) : text.allBlank = false := by
  obtain ⟨before, after, _, _, rfl⟩ := spaced
  apply Bool.eq_false_iff.mpr
  intro blank
  have inside : c ∈ before ++ (core ++ after) :=
    List.mem_append_right _ (List.mem_append_left _ (List.mem_of_mem_head? first))
  exact Text.not_mem_of_all blank visible inside

theorem Spaced.apart_append {c : Char} {mid : Text} (spaced : Spaced [c] mid)
    (other : c.isAlphanum = false) (rest : Text) : Apart (mid ++ rest) := by
  obtain ⟨before, after, blank, _, rfl⟩ := spaced
  rw [List.append_assoc]
  apply Apart.blank_append blank
  intro d first
  cases Option.some.inj first
  exact other

theorem Spaced.trimStart_append {core part : Text} (spaced : Spaced core part) {c : Char}
    (first : core.head? = some c) (visible : isBlank c = false) (rest : Text) :
    ∃ after : Text, after.allBlank = true ∧ (part ++ rest).trimStart = core ++ (after ++ rest) := by
  obtain ⟨before, after, blank, blank', rfl⟩ := spaced
  refine ⟨after, blank', ?_⟩
  rw [List.append_assoc, List.append_assoc, Text.trimStart_append blank]
  cases core with
  | nil => contradiction
  | cons d ds =>
    cases Option.some.inj first
    exact Text.trimStart_cons visible

theorem Spaced.head_trimStart {core part : Text} (spaced : Spaced core part) {c : Char}
    (first : core.head? = some c) (visible : isBlank c = false) (rest : Text) :
    (part ++ rest).trimStart.head? = some c := by
  obtain ⟨after, _, same⟩ := spaced.trimStart_append first visible rest
  rw [same, List.head?_append, first]
  rfl

namespace Op

theorem symbol_injective {a b : Op} (same : a.symbol = b.symbol) : a = b := by
  cases a <;> cases b <;> simp [symbol] at same ⊢

theorem symbol_facts (op : Op) :
    op.symbol.isAlphanum = false ∧ isBlank op.symbol = false ∧ op.symbol ≠ ')' := by
  cases op <;> decide

end Op

/-- The blanks before an operand, and perhaps a plus or minus among them. -/
def Gap (text : Text) : Prop :=
  text.allBlank = true ∨ ∃ op : Op, op.isMultiplicative = false ∧ Spaced [op.symbol] text

theorem Gap.not_mem {gap : Text} (gaps : Gap gap) {m : Char} (visible : isBlank m = false)
    (foreign : ∀ op : Op, m ≠ op.symbol) : m ∉ gap := by
  rcases gaps with blank | ⟨op, _, spaced⟩
  · exact Text.not_mem_of_all blank visible
  · exact spaced.not_mem visible (by simp [foreign op])

namespace Reader

theorem padded_trimStart (reader : Reader α) (text : Text) :
    padded reader text.trimStart = padded reader text := by
  simp only [padded, Text.trimStart_trimStart]

theorem padded_sound {reader : Reader α} {language : Text → α → Prop}
    (sound : Sound reader language) {text rest : Text} {value : α}
    (reads : padded reader text = some (value, rest)) :
    ∃ core part, language core value ∧ Spaced core part ∧ text = part ++ rest := by
  simp only [padded, Option.bind_eq_bind, Option.bind_eq_some_iff, Prod.exists, Option.some.injEq,
    Prod.mk.injEq] at reads
  obtain ⟨v, behind, found, rfl, rfl⟩ := reads
  obtain ⟨core, valid, same⟩ := sound _ _ _ found
  obtain ⟨before, blank, start⟩ := Text.exists_blank_append text
  obtain ⟨after, blank', stop⟩ := Text.exists_blank_append behind
  refine ⟨core, before ++ (core ++ after), valid, ⟨before, after, blank, blank', rfl⟩, ?_⟩
  rw [start, same, List.append_assoc, List.append_assoc, ← stop]

theorem padded_append {reader : Reader α} {core part rest : Text} {value : α}
    (spaced : Spaced core part)
    {c : Char} (first : core.head? = some c) (visible : isBlank c = false)
    (reads : ∀ after : Text, after.allBlank = true →
      reader (core ++ (after ++ rest)) = some (value, after ++ rest)) :
    padded reader (part ++ rest) = some (value, rest.trimStart) := by
  obtain ⟨after, blank, start⟩ := spaced.trimStart_append first visible rest
  simp only [padded, start, reads after blank, Option.bind_eq_bind, Option.bind_some,
    Text.trimStart_append blank]

def symbolOf (ops : List Op) : Reader Op
  | [] => none
  | c :: rest => (ops.find? fun op => op.symbol = c).map (·, rest)

theorem symbolOf_sound (ops : List Op) :
    Sound (symbolOf ops) fun part op => op ∈ ops ∧ part = [op.symbol] := by
  intro text op rest reads
  cases text with
  | nil => contradiction
  | cons c cs =>
    simp only [symbolOf, Option.map_eq_some_iff, Prod.mk.injEq] at reads
    obtain ⟨found, known, rfl, rfl⟩ := reads
    have same : found.symbol = c := by simpa using List.find?_some known
    exact ⟨[c], ⟨List.mem_of_find?_eq_some known, by rw [same]⟩, rfl⟩

theorem operator_sound (ops : List Op) :
    Sound (operator ops) fun part op => op ∈ ops ∧ Spaced [op.symbol] part := by
  intro text op rest reads
  obtain ⟨core, part, ⟨known, rfl⟩, spaced, same⟩ := padded_sound (symbolOf_sound ops) reads
  exact ⟨part, ⟨known, spaced⟩, same⟩

theorem find_symbol {ops : List Op} {op : Op} (known : op ∈ ops) :
    (ops.find? fun other => other.symbol = op.symbol) = some op := by
  induction ops with
  | nil => contradiction
  | cons other ops ih =>
    by_cases same : other.symbol = op.symbol
    · cases Op.symbol_injective same
      simp
    · have later : op ∈ ops := by
        rcases List.mem_cons.mp known with rfl | later
        · contradiction
        · exact later
      simp [same, ih later]

theorem operator_append {ops : List Op} {op : Op} {mid : Text} (known : op ∈ ops)
    (spaced : Spaced [op.symbol] mid) (rest : Text) :
    operator ops (mid ++ rest) = some (op, rest.trimStart) := by
  apply padded_append spaced rfl op.symbol_facts.2.1
  intro after _
  simp [find_symbol known]

theorem operator_of_head {ops : List Op} {text : Text}
    (other : ∀ op ∈ ops, text.trimStart.head? ≠ some op.symbol) : operator ops text = none := by
  cases found : operator ops text with
  | none => rfl
  | some reading =>
    obtain ⟨part, ⟨known, spaced⟩, rfl⟩ := operator_sound ops _ _ _ found
    exact absurd (spaced.head_trimStart rfl reading.1.symbol_facts.2.1 _) (other _ known)

theorem operator_shortens (ops : List Op) : Shortens (operator ops) := by
  intro text op rest reads
  obtain ⟨part, ⟨_, before, after, _, _, rfl⟩, rfl⟩ := operator_sound ops _ _ _ reads
  simp only [List.length_append, List.length_singleton]
  omega

end Reader
end Tabletop
