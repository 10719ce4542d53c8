import Tabletop.Proofs.Composing.Openings
import Tabletop.Proofs.Stripping

/-! Blocks that come about where blocks are left out. A block that breaks off directly before
another one goes on with what stands behind that one, and no block is left but those. -/
namespace Tabletop

theorem Sign.eq_of_prefix_symbol {sign : Sign} {part : Text} (starts : part <+: sign.symbol) :
    part = [] ∨ part = ['!'] ∨ ∃ other : Sign, part = other.symbol := by
  have short : part = [] ∨ part = sign.symbol.take 1 ∨ part = sign.symbol := by
    cases sign <;> simp [symbol, List.prefix_cons_iff] at starts ⊢ <;> grind
  rcases short with rfl | rfl | rfl
  · exact .inl rfl
  · cases sign with
    | notEqual => exact .inr (.inl rfl)
    | less | atMost => exact .inr (.inr ⟨.less, rfl⟩)
    | greater | atLeast => exact .inr (.inr ⟨.greater, rfl⟩)
    | equal | same => exact .inr (.inr ⟨.equal, rfl⟩)
  · exact .inr (.inr ⟨sign, rfl⟩)

namespace CriticalBlock

variable {text head part start tail : Text} {block : CriticalBlock}

inductive Opens : Text → Prop where
  | natural {c k : Char} (letter : c = 'c' ∨ c = 'C') (kind : (kindOf? k).isSome) :
      Opens ['\x7b', c, k, ':']
  | total {c k : Char} (letter : c = 'c' ∨ c = 'C') (kind : (kindOf? k).isSome) :
      Opens ['\x7b', '*', c, k, ':']

structure Closes (text : Text) : Prop where
  closed : '\x7d' ∈ text
  value : text.head? ≠ some '\x7d'

theorem closes_append {value : Text} (nonempty : value ≠ []) (fresh : '\x7d' ∉ value)
    (closed : '\x7d' ∈ tail) : Closes (value ++ tail) := by
  refine ⟨List.mem_append_right value closed, ?_⟩
  rw [List.head?_append_of_ne_nil value nonempty]
  exact fun starts => fresh (List.mem_of_mem_head? starts)

theorem closedValue_isSome_iff :
    (closedValue text).isSome ↔ ∃ (sign : Sign)
    (behind : Text), text = sign.symbol ++ behind ∧ Closes behind := by
  constructor
  · intro reads
    obtain ⟨⟨⟨sign, value⟩, rest⟩, reads⟩ := Option.isSome_iff_exists.mp reads
    obtain ⟨split, nonempty, fresh⟩ := eq_of_closedValue reads
    exact ⟨sign, _, split, closes_append nonempty fresh List.mem_cons_self⟩
  · rintro ⟨sign, behind, rfl, closed, value⟩
    have leads : (sign, behind) ∈ Sign.leading (sign.symbol ++ behind) :=
      Sign.mem_leading_iff.mpr rfl
    have found : (signedValue '\x7d' (sign.symbol ++ behind)).isSome := by
      rw [signedValue, List.findSome?_isSome_iff]
      refine ⟨_, leads, ?_⟩
      cases behind with
      | nil => cases closed
      | cons c rest => simp [show c ≠ '\x7d' from fun same => value (congrArg some same)]
    obtain ⟨⟨⟨other, taken⟩, rest⟩, found⟩ := Option.isSome_iff_exists.mp found
    obtain ⟨split, _, fresh⟩ := Comparator.eq_of_signedValue found
    have closed : '\x7d' ∈ other.symbol ++ (taken ++ rest) :=
      split ▸ List.mem_append_right sign.symbol closed
    rcases Comparator.rest_eq_of_signedValue found with rfl | ⟨more, rfl⟩
    · simp [not_mem_symbol (m := '\x7d') (by decide) other, fresh] at closed
    · simp [closedValue, found, Reader.char]

theorem inside_isSome_iff (onNaturalDie : Bool) :
    (inside onNaturalDie text).isSome ↔ ∃ (c k : Char)
    (behind : Text), (c = 'c' ∨ c = 'C') ∧ (kindOf? k).isSome ∧
      text = c :: k :: ':' :: behind ∧ (closedValue behind).isSome := by
  constructor
  · intro reads
    unfold inside at reads
    split at reads
    · next c k behind =>
      split at reads
      · next letter =>
        refine ⟨c, k, behind, by simpa using letter, ?_⟩
        cases known : kindOf? k <;> cases found : closedValue behind <;> simp_all
      · cases reads
    · cases reads
  · rintro ⟨c, k, behind, letter, kind, rfl, reads⟩
    obtain ⟨kind, known⟩ := Option.isSome_iff_exists.mp kind
    obtain ⟨reading, found⟩ := Option.isSome_iff_exists.mp reads
    rcases letter with rfl | rfl <;> simp [inside, known, found]

theorem reader_isSome_iff :
    (reader text).isSome ↔ ∃ (head : Text) (sign : Sign) (behind : Text),
      Opens head ∧ text = head ++ (sign.symbol ++ behind) ∧ Closes behind := by
  constructor
  · intro reads
    obtain ⟨reading, reads⟩ := Option.isSome_iff_exists.mp reads
    rw [reader_eq] at reads
    obtain ⟨⟨_, rest⟩, opens, inner⟩ := Option.bind_eq_some_iff.mp reads
    obtain ⟨c, k, behind, letter, kind, split, valued⟩ :=
      (inside_isSome_iff _).mp (Option.isSome_iff_exists.mpr ⟨_, inner⟩)
    obtain ⟨sign, behind, rfl, closes⟩ := closedValue_isSome_iff.mp valued
    rw [Reader.char_eq_some_iff.mp opens]
    unfold Reader.optional at split
    split at split
    · next starred =>
      dsimp only at split
      rw [Reader.char_eq_some_iff.mp starred, split]
      exact ⟨_, sign, behind, .total letter kind, rfl, closes⟩
    · dsimp only at split
      rw [split]
      exact ⟨_, sign, behind, .natural letter kind, rfl, closes⟩
  · rintro ⟨head, sign, behind, opens, rfl, closes⟩
    have valued := closedValue_isSome_iff.mpr ⟨sign, behind, rfl, closes⟩
    rw [reader_eq]
    cases opens with
    | @natural c k letter kind =>
      have unstarred : c ≠ '*' := by rcases letter with rfl | rfl <;> decide
      simpa [Reader.char, Reader.optional, unstarred] using
        (inside_isSome_iff true).mpr ⟨c, k, _, letter, kind, rfl, valued⟩
    | @total c k letter kind =>
      simpa [Reader.char, Reader.optional] using
        (inside_isSome_iff false).mpr ⟨c, k, _, letter, kind, rfl, valued⟩

theorem Opens.known (opens : Opens head) : ∀ c ∈ head, c = '\x7b' ∨ c ∈ headChars := by
  have letter {c : Char} (known : c = 'c' ∨ c = 'C') : c ∈ headChars := by
    rcases known with rfl | rfl <;> decide
  have kind {k : Char} (known : (kindOf? k).isSome) : k ∈ headChars :=
    mem_headChars_of_kindOf? (Option.some_get known).symm
  have star : '*' ∈ headChars := by decide
  have colon : ':' ∈ headChars := by decide
  cases opens with
  | natural first second => simp [letter first, kind second, colon]
  | total first second => simp [letter first, kind second, star, colon]

/-- The text is a part of an opening, or an opening with the first character of the sign `!=`. -/
structure Unfinished (part : Text) : Prop where
  ne_nil : part ≠ []
  opening : ∃ head, Opens head ∧ part <+: head ++ ['!']

theorem reader_eq_none_of_append (unread : reader (text ++ tail) = none) : reader text = none := by
  refine Option.eq_none_iff_forall_ne_some.mpr fun reading reads => ?_
  rw [reader_append (mem_of_reader reads), reads] at unread
  cases unread

theorem unfinished_of_completed {other : Text} (unread : reader (part ++ tail) = none)
    (next : (reader tail).isSome) (completed : (reader (part ++ other)).isSome) :
    Unfinished part := by
  obtain ⟨⟨_, _⟩, next⟩ := Option.isSome_iff_exists.mp next
  have opened : tail.head? ≠ some '\x7d' := by
    obtain ⟨inner, rfl⟩ := exists_of_reads next
    simp
  have unclosed : '\x7d' ∉ part := fun closed => by
    have alone := reader_eq_none_of_append unread
    rw [reader_append closed, alone] at completed
    cases completed
  -- An opening with a sign would read what stands behind as its value.
  have unsigned (head : Text) (sign : Sign) (value : Text) (opens : Opens head) :
      part ≠ head ++ (sign.symbol ++ value) := by
    rintro rfl
    have reads : (reader (head ++ (sign.symbol ++ (value ++ tail)))).isSome := by
      refine reader_isSome_iff.mpr ⟨head, sign, _, opens, rfl, ?_⟩
      by_cases empty : value = []
      · exact ⟨by simp [mem_of_reader next], by simpa [empty] using opened⟩
      · exact closes_append empty (fun member => unclosed (by simp [member])) (mem_of_reader next)
    simp only [List.append_assoc] at unread
    rw [unread] at reads
    cases reads
  obtain ⟨head, sign, behind, opens, split, -⟩ := reader_isSome_iff.mp completed
  have nonempty : part ≠ [] := by
    rintro rfl
    rw [List.nil_append, next] at unread
    cases unread
  refine ⟨nonempty, head, opens, ?_⟩
  rcases List.append_eq_append_iff.mp split with ⟨mid, whole, _⟩ | ⟨mid, same, later⟩
  · exact ⟨mid ++ ['!'], by simp [whole]⟩
  · rcases List.append_eq_append_iff.mp later with ⟨value, rfl, _⟩ | ⟨more, symbol, _⟩
    · exact absurd same (unsigned head sign value opens)
    · rcases Sign.eq_of_prefix_symbol ⟨more, symbol.symm⟩ with rfl | rfl | ⟨other, rfl⟩
      · exact ⟨['!'], by simp [same]⟩
      · exact ⟨[], by simp [same]⟩
      · exact absurd (by simpa using same) (unsigned head other [] opens)

/-- Between two parts of the text an opening breaks off before a block, and what is left behind the
block ends it. -/
structure Mended (text front part tail : Text) : Prop where
  split : text = front ++ (part ++ tail)
  stripped : strip text = strip front ++ (part ++ strip tail)
  unfinished : Unfinished part
  next : (reader tail).isSome
  completed : (reader (part ++ strip tail)).isSome

theorem findings_eq_nil_or_split (text : Text) :
    reader.findings text = [] ∨ ∃ part tail, text = part ++ tail ∧ (reader tail).isSome ∧
      strip text = part ++ strip tail := by
  induction text using reader_takesPart.scan_induction with
  | nil => exact .inl rfl
  | plain c text unread ih =>
    rw [Reader.findings_cons unread, strip_cons unread]
    rcases ih with none | ⟨part, tail, rfl, next, stripped⟩
    · exact .inl none
    · exact .inr ⟨c :: part, tail, rfl, next, congrArg _ stripped⟩
  | hit block part rest _ reads _ => exact .inr ⟨[], part ++ rest, rfl, by simp [reads], rfl⟩

theorem findAll_eq_nil_iff : findAll text = [] ↔ reader.findings text = [] := List.map_eq_nil_iff

theorem strip_eq_self_iff : strip text = text ↔ findAll text = [] := by
  refine ⟨fun same => ?_, strip_of_findAll_eq_nil⟩
  rw [findAll_eq_nil_iff]
  apply reader_takesPart.findings_of_length_erased
  exact Nat.le_of_eq (congrArg List.length same).symm

theorem findAll_eq_nil_iff_forall :
    findAll text = [] ↔ ∀ start, start <:+ text → reader start = none := by
  rw [findAll_eq_nil_iff]
  constructor
  · intro none start suffix
    refine Option.eq_none_iff_forall_ne_some.mpr fun ⟨block, rest⟩ reads => ?_
    obtain ⟨found, member, _⟩ := exists_finding_of_reads reads suffix
    rw [none] at member
    cases member
  · intro never
    refine List.eq_nil_iff_forall_not_mem.mpr fun ⟨block, part⟩ member => ?_
    obtain ⟨start, rest, suffix, reads, _⟩ := Reader.exists_reads_of_mem_findings member
    rw [never start suffix] at reads
    cases reads

theorem exists_mended_of_reads (suffix : start <:+ strip text) (reads : (reader start).isSome) :
    ∃ front part tail, Mended text front part tail := by
  induction text using reader_takesPart.scan_induction with
  | nil =>
    obtain rfl := List.suffix_nil.mp suffix
    cases reads
  | plain c text unread ih =>
    rw [strip_cons unread] at suffix
    rcases List.suffix_cons_iff.mp suffix with rfl | later
    · rw [← strip_cons unread] at reads
      rcases findings_eq_nil_or_split (c :: text) with none | ⟨part, tail, split, next, stripped⟩
      · rw [strip_of_findAll_eq_nil (findAll_eq_nil_iff.mpr none), unread] at reads
        cases reads
      · rw [stripped] at reads
        exact ⟨[], part, tail, split, stripped, unfinished_of_completed (split ▸ unread) next reads,
          next, reads⟩
    · obtain ⟨front, part, tail, mended⟩ := ih later
      obtain ⟨rfl, stripped, unfinished, next, completed⟩ := mended
      have alone : reader (c :: front) = none := reader_eq_none_of_append unread
      refine ⟨c :: front, part, tail, rfl, ?_, unfinished, next, completed⟩
      rw [strip_cons unread, strip_cons alone, stripped, List.cons_append]
  | hit block core rest _ first ih =>
    rw [strip_of_reads first] at suffix
    obtain ⟨front, part, tail, mended⟩ := ih suffix
    obtain ⟨rfl, stripped, unfinished, next, completed⟩ := mended
    have alone := reads_before (mem_of_taken first) first front
    refine ⟨core ++ front, part, tail, by simp, ?_, unfinished, next, completed⟩
    rw [strip_of_reads first, strip_of_reads alone, stripped]

/-- What is left without blocks has a block exactly where one is mended. -/
theorem findAll_strip_eq_nil_iff :
    findAll (strip text) = [] ↔ ¬ ∃ front part tail, Mended text front part tail := by
  rw [findAll_eq_nil_iff_forall]
  constructor
  · rintro never ⟨front, part, tail, mended⟩
    have suffix : part ++ strip tail <:+ strip text := mended.stripped ▸ List.suffix_append _ _
    have completed := mended.completed
    rw [never _ suffix] at completed
    cases completed
  · intro unmended start suffix
    refine Option.eq_none_iff_forall_ne_some.mpr fun reading reads => unmended ?_
    exact exists_mended_of_reads suffix (Option.isSome_iff_exists.mpr ⟨reading, reads⟩)

end CriticalBlock
end Tabletop
