import Mathlib.Data.List.Infix
import Tabletop.Proofs.Blocks
import Tabletop.Proofs.Composing.Resolving

/-! Texts with blocks and without them. A block that stands in a text is found there, or ends one
that is; what is left without blocks starts as the text does, or as it goes on behind one. -/
namespace Tabletop

variable {text start rest : Text}

theorem Text.infix_trim_of_ends {m n : Char} {inner line : Text} (starts : isBlank m = false)
    (ends : isBlank n = false) (inside : m :: (inner ++ [n]) <:+: line) :
    m :: (inner ++ [n]) <:+: line.trim := by
  obtain ⟨before, leading, first⟩ := line.exists_blank_append
  obtain ⟨after, trailing, last⟩ := line.trimStart.exists_append_blank
  rw [first] at inside
  have inside := infix_of_start (not_mem_of_allBlank starts leading) inside
  rw [last, ← List.cons_append] at inside
  exact infix_of_end (not_mem_of_allBlank ends trailing) inside

namespace CriticalBlock

variable {block : CriticalBlock}

theorem exists_of_reads (reads : reader text = some (block, rest)) :
    ∃ inner, text = '\x7b' :: (inner ++ '\x7d' :: rest) := by
  obtain ⟨head, _, split, _⟩ := eq_of_reader reads
  exact ⟨head ++ (block.sign.symbol ++ block.value), by simp [split]⟩

theorem reader_takesPart : reader.TakesPart := by
  intro text block rest reads
  obtain ⟨inner, rfl⟩ := exists_of_reads reads
  exact ⟨'\x7b' :: (inner ++ ['\x7d']), by simp, by simp⟩

theorem mem_of_taken {part : Text} (reads : reader (part ++ rest) = some (block, rest)) :
    '\x7d' ∈ part := by
  obtain ⟨inner, split⟩ := exists_of_reads reads
  have same : part ++ rest = '\x7b' :: (inner ++ ['\x7d']) ++ rest := by simp [split]
  rw [List.append_cancel_right same]
  simp

theorem reader_starts : reader.StartsWith '\x7b' := by
  intro text reading reads
  obtain ⟨inner, rfl⟩ := exists_of_reads reads
  rfl

theorem reads_before {core : Text} (closed : '\x7d' ∈ core)
    (reads : reader (core ++ rest) = some (block, rest))
    (after : Text) : reader (core ++ after) = some (block, after) := by
  rw [reader_append closed] at reads ⊢
  obtain ⟨⟨other, left⟩, alone, same⟩ := Option.map_eq_some_iff.mp reads
  simp only [Prod.mk.injEq, List.append_left_eq_self] at same
  obtain ⟨rfl, rfl⟩ := same
  rw [alone]
  rfl

theorem strip_cons {c : Char} (unread : reader (c :: text) = none) :
    strip (c :: text) = c :: strip text :=
  Reader.substituted_cons unread

theorem strip_of_reads (reads : reader text = some (block, rest)) : strip text = strip rest := by
  obtain ⟨part, nonempty, rfl⟩ := reader_takesPart _ _ _ reads
  exact Reader.substituted_of_reads nonempty reads _

theorem strip_of_findAll_eq_nil (unblocked : findAll text = []) : strip text = text :=
  Reader.substituted_of_unfound reader_takesPart (List.map_eq_nil_iff.mp unblocked) _

theorem findings_of_reads (reads : reader text = some (block, rest)) :
    ∃ part, text = part ++ rest ∧ reader.findings text = (block, part) :: reader.findings rest := by
  obtain ⟨part, nonempty, rfl⟩ := reader_takesPart _ _ _ reads
  exact ⟨part, rfl, by simp [Reader.findings, Reader.scan_of_reads nonempty reads]⟩

theorem findAll_of_reads (reads : reader text = some (block, rest)) :
    findAll text = { block with value := block.value.trim } :: findAll rest := by
  obtain ⟨part, _, listed⟩ := findings_of_reads reads
  rw [findAll, listed, List.map_cons, findAll]

theorem value_eq_or_suffix {c : Char} {outer : CriticalBlock} {behind : Text}
    (first : reader (c :: text) = some (outer, behind)) (reads : reader start = some (block, rest))
    (later : start <:+ text) :
    (∃ front sign, outer.value = front ++ (Sign.symbol sign ++ block.value)) ∨
      start <:+ behind := by
  obtain ⟨head, known, whole, unclosed⟩ := eq_of_reader first
  obtain ⟨inner, spelt, rfl, closed⟩ := eq_of_reader reads
  have absent {m : Char} (foreign : m ∉ headChars) : m ∉ head :=
    fun member => foreign (known m member)
  have fresh : '\x7d' ∉ '\x7b' :: (inner ++ (block.sign.symbol ++ block.value)) := by
    have head : '\x7d' ∉ inner := fun member => absurd (spelt _ member) (by decide)
    simp [head, closed, not_mem_symbol (m := '\x7d') (by decide) block.sign]
  have same : '\x7b' :: (inner ++ (block.sign.symbol ++ (block.value ++ '\x7d' :: rest))) =
    ('\x7b' :: (inner ++ (block.sign.symbol ++ block.value))) ++ '\x7d' :: rest := by simp
  -- No brace opens in the head of a block or in its sign, so the inner block starts in the value or
  -- behind it.
  rw [(List.cons.inj whole).2] at later
  have later := Text.suffix_of_suffix_append (absent (by decide)) later
  have later := Text.suffix_of_suffix_append (not_mem_symbol (by decide) _) later
  rw [same] at later ⊢
  rcases Text.suffix_of_mark fresh unclosed later with ⟨⟨front, ends⟩, _⟩ | further
  · exact .inl ⟨front ++ '\x7b' :: inner, block.sign, by simp [← ends]⟩
  · exact .inr further

/-- Wherever a block reads, a scan finds it, or finds a block with a value that ends in it. -/
theorem exists_finding_of_reads (reads : reader start = some (block, rest))
    (suffix : start <:+ text) :
    ∃ found ∈ reader.findings text, found.1.value = block.value ∨
      ∃ front sign, found.1.value = front ++ (Sign.symbol sign ++ block.value) := by
  induction text using reader_takesPart.scan_induction with
  | nil =>
    obtain rfl := List.suffix_nil.mp suffix
    cases reads
  | plain c text unread ih =>
    rcases List.suffix_cons_iff.mp suffix with rfl | later
    · rw [unread] at reads
      cases reads
    · rw [Reader.findings_cons unread]
      exact ih later
  | hit outer part behind _ first ih =>
    obtain ⟨part, _, listed⟩ := findings_of_reads first
    obtain ⟨inner, split⟩ := exists_of_reads first
    rw [listed]
    rw [split] at first suffix
    rcases List.suffix_cons_iff.mp suffix with rfl | later
    · rw [first] at reads
      cases reads
      exact ⟨_, List.mem_cons_self, .inl rfl⟩
    · rcases value_eq_or_suffix first reads later with ends | further
      · exact ⟨_, List.mem_cons_self, .inr ends⟩
      · obtain ⟨found, member, ends⟩ := ih further
        exact ⟨found, List.mem_cons_of_mem _ member, ends⟩

theorem exists_mem_findAll {part line : Text} (found : (block, part) ∈ reader.findings text)
    (inside : part <:+: line) :
    ∃ other ∈ findAll line.trim, other.value = block.value.trim ∨
      ∃ front sign, other.value = (front ++ (Sign.symbol sign ++ block.value)).trim := by
  obtain ⟨start, rest, _, reads, rfl⟩ := Reader.exists_reads_of_mem_findings found
  obtain ⟨inner, rfl⟩ := exists_of_reads reads
  rw [Reader.taken_append (by simp : _ = ('\x7b' :: (inner ++ ['\x7d'])) ++ rest)] at inside
  obtain ⟨before, after, split⟩ := Text.infix_trim_of_ends (by decide) (by decide) inside
  have whole : '\x7b' :: (inner ++ '\x7d' :: rest) = '\x7b' :: (inner ++ ['\x7d']) ++ rest := by
    simp
  have suffix : '\x7b' :: (inner ++ ['\x7d']) ++ after <:+ line.trim :=
    ⟨before, by rw [← split]; simp⟩
  rw [whole] at reads
  have reads := reads_before (by simp) reads after
  obtain ⟨⟨other, spelt⟩, listed, same | ⟨front, sign, ends⟩⟩ :=
    exists_finding_of_reads reads suffix
  · exact ⟨_, List.mem_map_of_mem listed, .inl (congrArg Text.trim same)⟩
  · exact ⟨_, List.mem_map_of_mem listed, .inr ⟨front, sign, congrArg Text.trim ends⟩⟩

/-- No name goes on directly behind the brace that closes a block. -/
def Sealed (text : Text) : Prop := ∀ c, isNameChar c = true → ¬ ['\x7d', c] <:+: text

instance (text : Text) : Decidable (Sealed text) :=
  have parts : Decidable (∀ c ∈ text, isNameChar c = true → ¬ ['\x7d', c] <:+: text) :=
    List.decidableBAll _ _
  decidable_of_iff (∀ c ∈ text, isNameChar c = true → ¬ ['\x7d', c] <:+: text)
    ⟨fun sealed c named inside => sealed c (inside.subset (by simp)) named inside,
      fun sealed c _ => sealed c⟩

theorem Sealed.of_part {part : Text} (sealed : Sealed text) (inside : part <:+: text) :
    Sealed part :=
  fun c named behind => sealed c named (behind.trans inside)

theorem head_strip {c : Char} (starts : c ∈ (strip text).head?) :
    c ∈ text.head? ∨ ['\x7d', c] <:+: text := by
  induction text using reader_takesPart.scan_induction with
  | nil => cases starts
  | plain d text unread _ =>
    rw [strip_cons unread] at starts
    exact .inl starts
  | hit block part rest _ reads ih =>
    obtain ⟨inner, split⟩ := exists_of_reads reads
    rw [strip_of_reads reads] at starts
    rw [split]
    rcases ih starts with next | later
    · cases rest with
      | nil => cases next
      | cons e rest =>
        cases next
        exact .inr ⟨'\x7b' :: inner, rest, by simp⟩
    · exact .inr (later.trans ⟨'\x7b' :: (inner ++ ['\x7d']), [], by simp⟩)

theorem Sealed.behind (sealed : Sealed text) (reads : reader text = some (block, rest)) :
    Sealed rest ∧ ∀ c ∈ (strip rest).head?, isNameChar c = false := by
  obtain ⟨inner, rfl⟩ := exists_of_reads reads
  have later : Sealed ('\x7d' :: rest) := sealed.of_part ⟨'\x7b' :: inner, [], by simp⟩
  have rest_sealed : Sealed rest := later.of_part (List.suffix_cons _ rest).isInfix
  refine ⟨rest_sealed, fun c starts => Bool.eq_false_iff.mpr fun named => ?_⟩
  rcases head_strip starts with next | inside
  · cases rest with
    | nil => cases next
    | cons d rest =>
      cases next
      exact later c named ⟨[], rest, rfl⟩
  · exact rest_sealed c named inside

end CriticalBlock

end Tabletop
