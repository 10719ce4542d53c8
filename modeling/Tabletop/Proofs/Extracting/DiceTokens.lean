import Tabletop.Formula.DiceToken
import Tabletop.Proofs.Blocks
import Tabletop.Proofs.Classes
import Tabletop.Proofs.Trimming

/-! Blanks around a text are no part of its dice. A text that holds a dice term, or starts like a
number, does so without the blanks at its ends. -/
namespace Tabletop

theorem ne_of_isBlank {b c : Char} (blank : isBlank b = true) (visible : isBlank c = false) :
    b ≠ c := by
  rintro rfl
  rw [blank] at visible
  cases visible

theorem Reader.spares_blank {reader : Reader α}
    (spares : ∀ b after, isBlank b = true → Text.allBlank after = true → reader.Spares (b :: after))
    {after : Text} (blank : after.allBlank = true) : reader.Spares after := by
  cases after with
  | nil =>
    intro text
    simp
  | cons b after =>
    obtain ⟨first, others⟩ := Text.allBlank_cons_iff.mp blank
    exact spares b after first others

theorem diceTerm_spares {after : Text} (blank : after.allBlank = true) : diceTerm.Spares after := by
  refine Reader.spares_blank (fun b after blank _ text => ?_) blank
  have digitless := isDecimalDigit_of_isBlank blank
  simp only [diceTerm, Text.dropWhile_append_stop digitless]
  rcases text.dropWhile isDecimalDigit with _ | ⟨c, _ | ⟨k, rest⟩⟩
  · simp [ne_of_isBlank blank (c := 'd') (by decide), ne_of_isBlank blank (c := 'D') (by decide)]
  · simp [digitless, ne_of_isBlank blank (c := '%') (by decide)]
  · by_cases percent : k = '%'
    · subst percent
      simp only [List.cons_append]
      split <;> rfl
    · simp only [List.cons_append, Text.dropWhile_append_stop digitless]
      split
      · split <;> rfl
      · rfl

theorem diceTerm_of_blank {after : Text} (blank : after.allBlank = true) : diceTerm after = none :=
  diceTerm_spares blank []

theorem looseDiceTerm_spares {after : Text} (blank : after.allBlank = true) :
    looseDiceTerm.Spares after := by
  intro text
  cases text with
  | nil =>
    cases after with
    | nil => rfl
    | cons b after =>
      simp [looseDiceTerm, diceTerm_of_blank (Text.allBlank_cons_iff.mp blank).2]
  | cons c rest =>
    simp only [List.cons_append, looseDiceTerm, diceTerm_spares blank rest]
    split <;> rfl

theorem numericStart_spares {after : Text} (blank : after.allBlank = true) :
    numericStart.Spares after := by
  refine Reader.spares_blank (fun b after blank _ text => ?_) blank
  have digitless := isDecimalDigit_of_isBlank blank
  have unopened := ne_of_isBlank blank (c := '\x7b') (by decide)
  have stops : (b == '(' || b == '+' || b == '-') = false := by
    simp [ne_of_isBlank blank (c := '(') (by decide), ne_of_isBlank blank (c := '+') (by decide),
      ne_of_isBlank blank (c := '-') (by decide)]
  simp only [numericStart, Text.dropWhile_append_stop (p := fun c =>
    c == '(' || c == '+' || c == '-') stops]
  cases text.dropWhile fun c => c == '(' || c == '+' || c == '-' with
  | nil => simp [digitless, unopened]
  | cons c rest =>
    simp only [List.cons_append]
    split <;> rfl

theorem holdsDiceTerm_append_blank {after : Text} (blank : after.allBlank = true) (text : Text) :
    holdsDiceTerm (text ++ after) = holdsDiceTerm text := by
  have none : looseDiceTerm.first? after = none := by
    refine Reader.first?_eq_none fun before c rest split => ?_
    rw [split, Text.allBlank_append_iff, Text.allBlank_cons_iff] at blank
    simp [looseDiceTerm, diceTerm_of_blank blank.2.2]
  unfold holdsDiceTerm Reader.occursIn
  rw [diceTerm_spares blank, Reader.first?_append (looseDiceTerm_spares blank), none,
    Option.isSome_map]
  cases looseDiceTerm.first? text <;> rfl

theorem holdsDiceTerm_of_cons {b : Char} (blank : isBlank b = true) {text : Text}
    (holds : holdsDiceTerm (b :: text) = true) : holdsDiceTerm text = true := by
  have digitless := isDecimalDigit_of_isBlank blank
  have start : diceTerm (b :: text) = none := by
    simp [diceTerm, digitless, ne_of_isBlank blank (c := 'd') (by decide),
      ne_of_isBlank blank (c := 'D') (by decide)]
  simp only [holdsDiceTerm, start, Option.isSome_none, Bool.false_or, Reader.occursIn,
    Reader.first?] at holds
  rw [holdsDiceTerm, Bool.or_eq_true, Reader.occursIn]
  cases first : diceTerm text with
  | some _ => exact .inl rfl
  | none =>
    have loose : looseDiceTerm (b :: text) = none := by simp [looseDiceTerm, first]
    rw [loose, Option.isSome_map] at holds
    exact .inr holds

theorem numericStart_of_blank {b : Char} (blank : isBlank b = true) (text : Text) :
    numericStart (b :: text) = none := by
  simp [numericStart, isDecimalDigit_of_isBlank blank,
    ne_of_isBlank blank (c := '\x7b') (by decide), ne_of_isBlank blank (c := '(') (by decide),
    ne_of_isBlank blank (c := '+') (by decide), ne_of_isBlank blank (c := '-') (by decide)]

def tellsDice (bare : Text) : Bool := holdsDiceTerm bare || (numericStart bare).isSome

theorem hasDiceToken_eq (text : Text) : hasDiceToken text = tellsDice (CriticalBlock.strip text) :=
  rfl

theorem tellsDice_append_blank {after : Text} (blank : after.allBlank = true) (text : Text) :
    tellsDice (text ++ after) = tellsDice text := by
  rw [tellsDice, holdsDiceTerm_append_blank blank, numericStart_spares blank, Option.isSome_map,
    tellsDice]

theorem tellsDice_of_blank_append {before text : Text} (blank : before.allBlank = true)
    (tells : tellsDice (before ++ text) = true) : tellsDice text = true := by
  induction before with
  | nil => exact tells
  | cons b before ih =>
    obtain ⟨first, others⟩ := Text.allBlank_cons_iff.mp blank
    rw [tellsDice, List.cons_append, numericStart_of_blank first, Option.isSome_none,
      Bool.or_false] at tells
    apply ih others
    rw [tellsDice, holdsDiceTerm_of_cons first tells, Bool.true_or]

theorem CriticalBlock.strip_blank_append {before : Text} (blank : before.allBlank = true)
    (text : Text) : strip (before ++ text) = before ++ strip text := by
  induction before with
  | nil => rfl
  | cons b before ih =>
    obtain ⟨first, others⟩ := Text.allBlank_cons_iff.mp blank
    have unopened : reader (b :: (before ++ text)) = none := by
      simp [reader, Reader.char, ne_of_isBlank first (c := '\x7b') (by decide)]
    rw [List.cons_append, strip, Reader.erased, Reader.substituted_cons unopened, ← Reader.erased,
      ← strip, ih others, List.cons_append]

theorem hasDiceToken_trim {text : Text} (holds : hasDiceToken text = true) :
    hasDiceToken text.trim = true := by
  obtain ⟨before, starts, whole⟩ := text.exists_blank_append
  obtain ⟨after, ends, rest⟩ := text.trimStart.exists_append_blank
  have unclosed := Text.not_mem_of_allBlank (c := '\x7d') (by decide) ends
  have split : text = before ++ (text.trim ++ after) := by rw [Text.trim, ← rest, ← whole]
  have bare : CriticalBlock.strip text = before ++ (CriticalBlock.strip text.trim ++ after) := by
    rw [split, CriticalBlock.strip_blank_append starts, CriticalBlock.strip_append unclosed,
      ← split]
  have told : tellsDice (before ++ (CriticalBlock.strip text.trim ++ after)) = true := by
    rw [← bare, ← hasDiceToken_eq, holds]
  rw [hasDiceToken_eq, ← tellsDice_append_blank ends]
  exact tellsDice_of_blank_append starts told

end Tabletop
