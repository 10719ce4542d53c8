import Mathlib.Data.List.Chain
import Mathlib.Data.List.ModifyLast
import Tabletop.Proofs.Composing.Chain
import Tabletop.Proofs.Extracting.Ranges
import Tabletop.Proofs.Rendering.Marks

/-! Formulas without their comment. The first fragment can lose blanks at its start and the last one
its comment and blanks at its end without the text being parted elsewhere, so a formula that is
cleaned keeps its fragments. -/
namespace Tabletop

def uncommented (parts : List Text) : List Text :=
  parts.modifyLast fun part => part.takeWhile (· ≠ '#')

def trimmedEnds (parts : List Text) : List Text :=
  (parts.modifyHead Text.trimStart).modifyLast Text.trimEnd

theorem trimmedEnds_singleton (part : Text) : trimmedEnds [part] = [part.trim] :=
  List.modifyLast_concat Text.trimEnd part.trimStart []

theorem trimmedEnds_concat (first : Text) (parts : List Text) (last : Text) :
    trimmedEnds (first :: parts ++ [last]) = first.trimStart :: parts ++ [last.trimEnd] :=
  List.modifyLast_concat Text.trimEnd last (first.trimStart :: parts)

namespace Text

theorem trimStart_joined (first : Text) (others : List Text) :
    (joined [';'] (first :: others)).trimStart = joined [';'] (first.trimStart :: others) := by
  cases others with
  | nil => rw [joined_singleton, joined_singleton]
  | cons next others =>
      rw [joined_cons_cons, joined_cons_cons, trimStart_append_visible (by decide)]

theorem trimEnd_joined (parts : List Text) (last : Text) :
    (joined [';'] (parts ++ [last])).trimEnd = joined [';'] (parts ++ [last.trimEnd]) := by
  by_cases empty : parts = []
  · rw [empty, List.nil_append, List.nil_append, joined_singleton, joined_singleton]
  · have single (text : Text) : [text] ≠ [] := List.cons_ne_nil text []
    rw [joined_append empty (single _), joined_append empty (single _), List.singleton_append,
      List.singleton_append, trimEnd_append_visible (by decide), joined_singleton, joined_singleton]

end Text

variable {text first last other : Text} {parts : List Text}

theorem parts_iff : Parts text parts ↔
    parts ≠ [] ∧ text = Text.joined [';'] parts ∧ (∀ part ∈ parts, Unbroken part) ∧
      Parting parts := by
  constructor
  · intro parted
    have unbroken := parted.unbroken
    cases parts with
    | nil => cases parted
    | cons first others =>
      obtain rfl := parted.joined
      exact ⟨List.cons_ne_nil _ _, rfl, unbroken, (parts_joined_iff unbroken).mp parted⟩
  · rintro ⟨nonempty, rfl, unbroken, parting⟩
    cases parts with
    | nil => contradiction
    | cons first others => exact (parts_joined_iff unbroken).mpr parting

theorem Parts.exchange_head (parted : Parts text (first :: parts)) (unbroken : Unbroken other)
    (commented : '#' ∈ other → '#' ∈ first) :
    Parts (Text.joined [';'] (other :: parts)) (other :: parts) := by
  obtain ⟨_, _, each, parting⟩ := parts_iff.mp parted
  obtain ⟨_, others⟩ := List.forall_mem_cons.mp each
  refine parts_iff.mpr ⟨List.cons_ne_nil _ _, rfl, List.forall_mem_cons.mpr ⟨unbroken, others⟩, ?_⟩
  rw [Parting, List.isChain_cons] at parting ⊢
  exact ⟨fun next member inside => parting.1 next member (commented inside), parting.2⟩

theorem Parts.exchange_last (parted : Parts text (parts ++ [last])) (unbroken : Unbroken other)
    (opens : opensRoll other = opensRoll last) :
    Parts (Text.joined [';'] (parts ++ [other])) (parts ++ [other]) := by
  obtain ⟨_, _, each, parting⟩ := parts_iff.mp parted
  refine parts_iff.mpr ⟨by simp, rfl, fun part member => ?_, ?_⟩
  · rcases List.mem_append.mp member with earlier | same
    · exact each part (List.mem_append_left _ earlier)
    · exact List.mem_singleton.mp same ▸ unbroken
  · rw [Parting, List.isChain_append] at parting ⊢
    refine ⟨parting.1, .singleton other, fun before member behind final inside => ?_⟩
    obtain rfl : behind = other := by simpa [eq_comm] using final
    exact opens.trans (parting.2.2 before member last rfl inside)

theorem Unbroken.trimStart (unbroken : Unbroken text) : Unbroken text.trimStart := by
  intro before after split
  obtain ⟨blanks, blank, whole⟩ := text.exists_blank_append
  obtain ⟨commented, closed⟩ :=
    unbroken (blanks ++ before) after (by rw [List.append_assoc, ← split, ← whole])
  exact ⟨(List.mem_append.mp commented).resolve_left (Text.not_mem_of_allBlank (by decide) blank),
    closed⟩

theorem Unbroken.trimEnd (unbroken : Unbroken text) : Unbroken text.trimEnd := by
  intro before after split
  obtain ⟨blanks, blank, whole⟩ := text.exists_append_blank
  obtain ⟨commented, closed⟩ := unbroken before (after ++ blanks) (by
    rw [← List.cons_append, ← List.append_assoc, ← split, ← whole])
  exact ⟨commented, (opensRoll_append_blank blank after).symm.trans closed⟩

theorem opensRoll_trimEnd (text : Text) : opensRoll text.trimEnd = opensRoll text := by
  obtain ⟨blanks, blank, whole⟩ := text.exists_append_blank
  exact (opensRoll_append_blank blank text.trimEnd).symm.trans (congrArg opensRoll whole.symm)

theorem Unbroken.not_mem_uncommented (unbroken : Unbroken text) :
    ';' ∉ text.takeWhile (· ≠ '#') := by
  intro member
  obtain ⟨before, after, split⟩ := List.append_of_mem member
  have whole : text = before ++ ';' :: (after ++ text.dropWhile (· ≠ '#')) := by
    rw [← List.cons_append, ← List.append_assoc, ← split, List.takeWhile_append_dropWhile]
  refine Text.not_mem_takeWhile '#' text ?_
  rw [split]
  exact List.mem_append_left _ (unbroken before _ whole).1

theorem opensRoll_uncommented (text : Text) :
    opensRoll (text.takeWhile (· ≠ '#')) = opensRoll text := by
  cases cut : Text.cutAt? '#' text with
  | none => rw [Text.takeWhile_of_not_mem (Text.cutAt?_eq_none_iff.mp cut)]
  | some found =>
      rw [Text.takeWhile_of_cutAt? cut, (Text.eq_of_cutAt? cut).1, opensRoll_append_hash]

theorem fragments_trimStart (text : Text) :
    fragments text.trimStart = (fragments text).modifyHead Text.trimStart := by
  have parted := fragments_eq_iff.mp (rfl : fragments text = fragments text)
  cases split : fragments text with
  | nil =>
    rw [split] at parted
    cases parted
  | cons first others =>
    rw [split] at parted
    have unbroken := parted.unbroken first List.mem_cons_self
    rw [← parted.joined, Text.trimStart_joined, List.modifyHead_cons]
    exact (parted.exchange_head unbroken.trimStart Text.mem_of_mem_trimStart).fragments_eq

theorem fragments_trimEnd (text : Text) :
    fragments text.trimEnd = (fragments text).modifyLast Text.trimEnd := by
  obtain ⟨earlier, last, split⟩ := exists_concat_fragments text
  have parted := fragments_eq_iff.mp split
  have unbroken := parted.unbroken last (by simp)
  rw [split, List.modifyLast_concat, ← parted.joined, Text.trimEnd_joined]
  exact (parted.exchange_last unbroken.trimEnd (opensRoll_trimEnd last)).fragments_eq

theorem fragments_trim (text : Text) : fragments text.trim = trimmedEnds (fragments text) := by
  rw [Text.trim, fragments_trimEnd, fragments_trimStart, trimmedEnds]

theorem fragments_uncommented (text : Text) :
    fragments (Text.joined [';'] (uncommented (fragments text))) =
      uncommented (fragments text) := by
  obtain ⟨earlier, last, split⟩ := exists_concat_fragments text
  have parted := fragments_eq_iff.mp split
  have unbroken := parted.unbroken last (by simp)
  rw [split, uncommented, List.modifyLast_concat]
  exact (parted.exchange_last (unbroken_of_not_mem unbroken.not_mem_uncommented)
    (opensRoll_uncommented last)).fragments_eq

theorem subset_of_getLast? {part : Text} (parts : List Text)
    (ends : part ∈ (trimmedEnds (uncommented (parts ++ [last]))).getLast?) :
    part ⊆ last.takeWhile (· ≠ '#') := by
  rw [uncommented, List.modifyLast_concat] at ends
  intro c inside
  cases parts with
  | nil =>
    rw [List.nil_append, trimmedEnds_singleton] at ends
    obtain rfl := Option.some.inj ends
    exact Text.mem_of_mem_trim inside
  | cons first parts =>
    rw [trimmedEnds_concat, List.getLast?_concat] at ends
    obtain rfl := Option.some.inj ends
    exact Text.mem_of_mem_trimEnd inside

theorem length_modifyLast (f : Text → Text) (parts : List Text) :
    (parts.modifyLast f).length = parts.length := by
  rcases List.eq_nil_or_concat' parts with rfl | ⟨earlier, last, rfl⟩
  · rfl
  · rw [List.modifyLast_concat, List.length_append, List.length_append]
    rfl

namespace Merged

theorem splitComment_fst (earlier : List Text) (last : Text) :
    (splitComment (earlier ++ [last])).1 = Text.joined [';'] (uncommented (earlier ++ [last])) := by
  simp only [splitComment, List.getLastD_concat, List.dropLast_concat, uncommented,
    List.modifyLast_concat]
  cases cut : Text.cutAt? '#' last with
  | none => rw [Text.takeWhile_of_not_mem (Text.cutAt?_eq_none_iff.mp cut)]
  | some found => rw [Text.takeWhile_of_cutAt? cut]

theorem formula_ofFormula {formula : Text} (unmarked : Unmarked formula)
    (userComment : Option Text) :
    (ofFormula formula userComment).formula =
      (Text.joined [';'] (uncommented (fragments formula))).trim := by
  obtain ⟨earlier, last, split⟩ := exists_concat_fragments formula
  have kept : Unmarked (splitComment (fragments formula)).1 :=
    (inherited_unmarked.splitComment (inherited_unmarked.nil unmarked) fun _ member =>
      inherited_unmarked.of_mem_fragments unmarked member).1
  simp only [ofFormula, kept.erased_eq]
  rw [split, splitComment_fst]

/-- A formula without its comment is parted as the formula was: its fragments are those of the
formula, the last one up to its comment, with the blanks at the two ends of the whole off. So a
chain stays a chain, no comment is left in the last fragment, and what is no chain has neither
comment nor semicolon. -/
theorem fragments_ofFormula {formula : Text} (unmarked : Unmarked formula)
    (userComment : Option Text) :
    fragments (ofFormula formula userComment).formula =
      trimmedEnds (uncommented (fragments formula)) ∧
      ((ofFormula formula userComment).chained = true ↔
        1 < (fragments (ofFormula formula userComment).formula).length) ∧
      (∀ last ∈ (fragments (ofFormula formula userComment).formula).getLast?, '#' ∉ last) ∧
      ((ofFormula formula userComment).chained = false →
        '#' ∉ (ofFormula formula userComment).formula ∧
          ';' ∉ (ofFormula formula userComment).formula) := by
  obtain ⟨earlier, last, split⟩ := exists_concat_fragments formula
  have cleaned := formula_ofFormula unmarked userComment
  have same : fragments (ofFormula formula userComment).formula =
      trimmedEnds (uncommented (fragments formula)) := by
    rw [cleaned, fragments_trim, fragments_uncommented]
  have length :
      (fragments (ofFormula formula userComment).formula).length = (fragments formula).length := by
    rw [same, trimmedEnds, length_modifyLast, List.length_modifyHead, uncommented,
      length_modifyLast]
  have chained :
      (ofFormula formula userComment).chained = decide (1 < (fragments formula).length) := rfl
  refine ⟨same, ?_, ?_, fun single => ?_⟩
  · rw [chained, length, decide_eq_true_eq]
  · rw [same, split]
    exact fun last ends inside =>
      Text.not_mem_takeWhile _ _ (subset_of_getLast? earlier ends inside)
  · obtain rfl : earlier = [] := by
      rw [chained, split] at single
      simpa using single
    have whole :
        (ofFormula formula userComment).formula = Text.trim (last.takeWhile (· ≠ '#')) := by
      rw [cleaned, split, uncommented, List.modifyLast_concat, List.nil_append,
        Text.joined_singleton]
    have unbroken := (fragments_eq_iff.mp split).unbroken last (by simp)
    rw [whole]
    exact ⟨fun inside => Text.not_mem_takeWhile _ last (Text.mem_of_mem_trim inside),
      fun inside => unbroken.not_mem_uncommented (Text.mem_of_mem_trim inside)⟩

def aimedTwice : Text :=
  [' ', '2', 'd', '6', ' ', '#', ' ', 'a', ';', ' ', 'b', ';', '1', 'd', '2', '0', ' ', '#', ' ',
    'c', ';', ' ', 'd']

theorem fragments_ofFormula_chained :
    Unmarked aimedTwice ∧
      fragments aimedTwice = [[' ', '2', 'd', '6', ' ', '#', ' ', 'a', ';', ' ', 'b'],
        ['1', 'd', '2', '0', ' ', '#', ' ', 'c', ';', ' ', 'd']] ∧
      fragments (ofFormula aimedTwice none).formula =
        [['2', 'd', '6', ' ', '#', ' ', 'a', ';', ' ', 'b'], ['1', 'd', '2', '0']] := by
  have unmarked : Unmarked aimedTwice := by decide +kernel
  have parted : fragments aimedTwice = [[' ', '2', 'd', '6', ' ', '#', ' ', 'a', ';', ' ', 'b'],
      ['1', 'd', '2', '0', ' ', '#', ' ', 'c', ';', ' ', 'd']] := by decide +kernel
  refine ⟨unmarked, parted, ?_⟩
  rw [(fragments_ofFormula unmarked none).1, parted]
  rfl

end Merged
end Tabletop
