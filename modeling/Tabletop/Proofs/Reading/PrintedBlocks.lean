import Tabletop.Proofs.Mending

/-! Blocks written out and read again. A block that was found comes back from its text, unless its
value is blank or its sign and the first character of its value make a longer sign. -/
namespace Tabletop

namespace Sign

variable {sign : Sign}

theorem length_symbol (sign : Sign) : sign.symbol.length = 1 ∨ sign.symbol.length = 2 := by
  cases sign <;> decide

theorem leading_of_long (long : sign.symbol.length = 2) (rest : Text) :
    (leading (sign.symbol ++ rest)).head? = some (sign, rest) := by
  cases sign with
  | less | greater | equal => cases long
  | atMost | atLeast | notEqual | same => rfl

theorem exists_longer (short : sign.symbol.length = 1) :
    ∃ longer : Sign, longer.symbol = sign.symbol ++ ['='] ∧ longer.symbol.length = 2 := by
  cases sign with
  | less => exact ⟨.atMost, rfl, rfl⟩
  | greater => exact ⟨.atLeast, rfl, rfl⟩
  | equal => exact ⟨.same, rfl, rfl⟩
  | atMost | atLeast | notEqual | same => cases short

end Sign

namespace CriticalBlock

variable {formula value rest : Text} {sign : Sign} {block : CriticalBlock}

/-- The block can be read from its text: it has a value, and the value gives no `=` to a sign of one
character. Where `=` is the whole value there is none to give, since a longer sign would have no
value. -/
structure Legible (block : CriticalBlock) : Prop where
  valued : block.value ≠ []
  apart : block.sign.symbol.length = 1 → block.value.head? = some '=' → block.value = ['=']

instance (block : CriticalBlock) : Decidable block.Legible :=
  decidable_of_iff (block.value ≠ [] ∧
      (block.sign.symbol.length = 1 → block.value.head? = some '=' → block.value = ['=']))
    ⟨fun ⟨valued, apart⟩ => ⟨valued, apart⟩, fun ⟨valued, apart⟩ => ⟨valued, apart⟩⟩

theorem closedValue_of_leads (nonempty : value ≠ []) (fresh : '\x7d' ∉ value)
    (leads : (Sign.leading (sign.symbol ++ (value ++ ['\x7d']))).head? =
      some (sign, value ++ ['\x7d'])) :
    closedValue (sign.symbol ++ (value ++ ['\x7d'])) = some ((sign, value), []) := by
  obtain ⟨others, list⟩ := List.head?_eq_some_iff.mp leads
  obtain ⟨taken, left⟩ := Text.span_of_not_mem fresh (.inr ⟨[], rfl⟩)
  have shown : value.isEmpty = false := by simpa using nonempty
  have found :
      signedValue '\x7d' (sign.symbol ++ (value ++ ['\x7d'])) = some ((sign, value), ['\x7d']) := by
    rw [signedValue, list, List.findSome?_cons]
    simp only [taken, left, shown, Bool.false_eq_true, if_false]
  simp only [closedValue, found, Reader.char_self, Option.bind_eq_bind, Option.bind_some]

theorem closedValue_eq_iff (fresh : '\x7d' ∉ value) :
    closedValue (sign.symbol ++ (value ++ ['\x7d'])) = some ((sign, value), []) ↔
      value ≠ [] ∧ (sign.symbol.length = 1 → value.head? = some '=' → value = ['=']) := by
  constructor
  · intro reads
    constructor
    · exact (eq_of_closedValue reads).2.1
    · intro short first
      obtain ⟨more, rfl⟩ := List.head?_eq_some_iff.mp first
      by_contra longer
      have others : more ≠ [] := fun empty => longer (empty ▸ rfl)
      obtain ⟨other, symbol, long⟩ := Sign.exists_longer short
      have behind : '\x7d' ∉ more := fun member => fresh (List.mem_cons_of_mem _ member)
      have read := closedValue_of_leads others behind (Sign.leading_of_long long _)
      rw [symbol, List.append_assoc, List.singleton_append, ← List.cons_append, reads] at read
      simp at read
  · rintro ⟨nonempty, apart⟩
    by_cases first : value.head? = some '='
    · rcases sign.length_symbol with short | long
      · obtain rfl := apart short first
        cases sign with
        | less | greater | equal => rfl
        | atMost | atLeast | notEqual | same => cases short
      · exact closedValue_of_leads nonempty fresh (Sign.leading_of_long long _)
    · apply closedValue_of_leads nonempty fresh
      apply Sign.leading_head
      rwa [List.head?_append_of_ne_nil value nonempty]

theorem reader_text (block : CriticalBlock) :
    reader block.text = (closedValue (block.sign.symbol ++ (block.value ++ ['\x7d']))).map
      fun ((sign, value), rest) => (⟨block.kind, sign, value, block.onNaturalDie⟩, rest) := by
  obtain ⟨kind, sign, value, onNaturalDie⟩ := block
  rw [reader_eq]
  cases closed : closedValue (sign.symbol ++ (value ++ ['\x7d'])) <;> cases kind <;>
    cases onNaturalDie <;> simp [text, Reader.char, Reader.optional, inside, kindOf?, closed]

theorem value_of_mem_findAll (found : block ∈ findAll formula) :
    block.value.trim = block.value ∧ '\x7d' ∉ block.value := by
  obtain ⟨⟨written, part⟩, listed, rfl⟩ := List.mem_map.mp found
  obtain ⟨start, rest, _, reads, _⟩ := Reader.exists_reads_of_mem_findings listed
  obtain ⟨_, _, _, fresh⟩ := eq_of_reader reads
  exact ⟨written.value.trim_trim, fun member => fresh (Text.mem_of_mem_trim member)⟩

theorem reader_text_isSome (valued : block.value ≠ []) (fresh : '\x7d' ∉ block.value) :
    (reader block.text).isSome := by
  have closes : Closes (block.value ++ ['\x7d']) := closes_append valued fresh List.mem_cons_self
  rw [reader_text, Option.isSome_map]
  exact closedValue_isSome_iff.mpr ⟨block.sign, _, rfl, closes⟩

theorem Legible.reads (legible : block.Legible) (fresh : '\x7d' ∉ block.value) :
    reader block.text = some (block, []) := by
  rw [reader_text, (closedValue_eq_iff fresh).mpr ⟨legible.valued, legible.apart⟩]
  rfl

theorem legible_of_reads {written : CriticalBlock} (fresh : '\x7d' ∉ block.value)
    (reads : reader block.text = some (written, rest)) (same : written.sign = block.sign) :
    block.Legible := by
  rw [reader_text, Option.map_eq_some_iff] at reads
  obtain ⟨⟨⟨sign, value⟩, rest⟩, found, made⟩ := reads
  obtain ⟨rfl, rfl⟩ := Prod.mk.inj made
  obtain rfl : sign = block.sign := same
  obtain ⟨split, _, closed⟩ := eq_of_closedValue found
  have ends : block.value ++ ['\x7d'] = value ++ '\x7d' :: rest := List.append_cancel_left split
  obtain ⟨spelled, left⟩ := Text.span_of_not_mem fresh (.inr ⟨[], rfl⟩)
  obtain ⟨taken, behind⟩ := Text.span_of_not_mem closed (.inr ⟨rest, rfl⟩)
  rw [ends] at spelled left
  obtain rfl : value = block.value := taken.symm.trans spelled
  obtain rfl : rest = [] := (List.cons.inj (behind.symm.trans left)).2
  obtain ⟨valued, apart⟩ := (closedValue_eq_iff fresh).mp found
  exact ⟨valued, apart⟩

theorem findAll_text_of_unread (unread : reader block.text = none) (valueless : block.value = []) :
    findAll block.text = [] := by
  have unopened : '\x7b' ∉ block.text.tail := by
    obtain ⟨kind, sign, value, onNaturalDie⟩ := block
    subst valueless
    cases kind <;> cases onNaturalDie <;> simp [text, not_mem_symbol (m := '\x7b') (by decide) sign]
  have split : block.text = '\x7b' :: block.text.tail := rfl
  rw [split] at unread
  rw [findAll_eq_nil_iff, split, Reader.findings_cons unread]
  exact Reader.findings_of_not_mem reader_starts.mem unopened

/-- A block that was found is the one block of its text exactly if it is legible. A blank value is
lost on the way, and a sign with `=` behind it comes back as a longer one. -/
theorem findAll_text_iff (found : block ∈ findAll formula) :
    findAll block.text = [block] ↔ block.Legible := by
  obtain ⟨trimmed, fresh⟩ := value_of_mem_findAll found
  constructor
  · intro alone
    cases reads : reader block.text with
    | none =>
      by_cases valueless : block.value = []
      · rw [findAll_text_of_unread reads valueless] at alone
        cases alone
      · have read := reader_text_isSome valueless fresh
        rw [reads] at read
        cases read
    | some reading =>
      rw [findAll_of_reads reads] at alone
      have same := congrArg CriticalBlock.sign (List.cons.inj alone).1
      exact legible_of_reads fresh reads same
  · intro legible
    rw [findAll_of_reads (legible.reads fresh), trimmed]
    rfl

theorem findAll_text_starred :
    let formula : Text := "2d6\x7bcs:> =5\x7d\x7b*cſ:>= =$x \x7d\x7bcf:< \x7d".toList
    let block : CriticalBlock := ⟨.failure, .atLeast, "=$x".toList, false⟩
    block ∈ findAll formula ∧ block.Legible ∧ findAll block.text = [block] := by
  intro formula block
  have found : block ∈ findAll formula := by decide +kernel
  have legible : block.Legible := by decide
  exact ⟨found, legible, (findAll_text_iff found).mpr legible⟩

/-- Between the sign and the value of this block stood a blank. -/
theorem findAll_text_joined :
    let block : CriticalBlock := ⟨.success, .greater, ['=', '5'], true⟩
    block ∈ findAll "1d20\x7bcs:> =5\x7d".toList ∧ findAll block.text ≠ [block] := by
  decide +kernel

end CriticalBlock
end Tabletop
