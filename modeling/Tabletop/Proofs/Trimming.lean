import Mathlib.Data.List.DropRight
import Tabletop.Proofs.Reading.Blanks

/-! The ends of a text. Blanks written behind a text are trimmed away again, a character that is not
blank keeps what stands before it from being trimmed at its end, and a text that is trimmed stays as
it is. -/
namespace Tabletop.Text

theorem dropWhile_append_stop {p : Char → Bool} {stop : Char} (stops : p stop = false)
    (text rest : Text) : (text ++ stop :: rest).dropWhile p = text.dropWhile p ++ stop :: rest := by
  rw [List.dropWhile_append]
  split
  · next empty => simp [List.isEmpty_iff.mp empty, stops]
  · rfl

theorem takeWhile_append_stop {p : Char → Bool} {stop : Char} (stops : p stop = false)
    (text rest : Text) : (text ++ stop :: rest).takeWhile p = text.takeWhile p := by
  rw [List.takeWhile_append]
  split
  · next whole => simp [stops, (List.takeWhile_prefix p).eq_of_length whole]
  · rfl

theorem takeWhile_append_of_mem {p : Char → Bool} {stop : Char} (stops : p stop = false)
    {text : Text} (member : stop ∈ text) (more : Text) :
    (text ++ more).takeWhile p = text.takeWhile p ∧
      (text ++ more).dropWhile p = text.dropWhile p ++ more := by
  obtain ⟨before, after, rfl⟩ := List.append_of_mem member
  simp only [List.append_assoc, List.cons_append, takeWhile_append_stop stops,
    dropWhile_append_stop stops, and_self]

theorem span_of_not_mem {mark : Char} {text rest : Text} (fresh : mark ∉ text)
    (ends : rest = [] ∨ ∃ more, rest = mark :: more) :
    (text ++ rest).takeWhile (· ≠ mark) = text ∧ (text ++ rest).dropWhile (· ≠ mark) = rest := by
  have clear (c : Char) (member : c ∈ text) : c ≠ mark := fun same => fresh (same ▸ member)
  refine span_append (fun c member => by simpa using clear c member) ?_
  rcases ends with rfl | ⟨more, rfl⟩ <;> simp

theorem takeWhile_of_not_mem {mark : Char} {text : Text} (fresh : mark ∉ text) :
    text.takeWhile (· ≠ mark) = text := by
  simpa using (span_of_not_mem fresh (.inl rfl)).1

theorem takeWhile_of_cutAt? {mark : Char} {text before after : Text}
    (cut : cutAt? mark text = some (before, after)) : text.takeWhile (· ≠ mark) = before := by
  obtain ⟨rfl, fresh⟩ := eq_of_cutAt? cut
  exact (span_of_not_mem fresh (.inr ⟨after, rfl⟩)).1

theorem not_mem_takeWhile (mark : Char) (text : Text) : mark ∉ text.takeWhile (· ≠ mark) :=
  fun member => by
  simpa using List.mem_takeWhile_imp member

theorem not_mem_of_allBlank {c : Char} (visible : isBlank c = false) {text : Text}
    (blank : text.allBlank = true) : c ∉ text :=
  not_mem_of_all blank visible

theorem exists_append_blank (text : Text) :
    ∃ after : Text, after.allBlank = true ∧ text = text.trimEnd ++ after :=
  ⟨text.rtakeWhile isBlank, List.all_eq_true.mpr fun _ member => List.mem_rtakeWhile_imp member,
    List.rdropWhile_append_rtakeWhile.symm⟩

theorem trimEnd_append {text after : Text} (blank : after.allBlank = true) :
    (text ++ after).trimEnd = text.trimEnd := by
  have visible : ∀ c ∈ after.reverse, isBlank c = true := by simpa [allBlank] using blank
  simp only [trimEnd, List.reverse_append, List.dropWhile_append_of_pos visible]

theorem trim_append {text after : Text} (blank : after.allBlank = true) :
    (text ++ after).trim = text.trim := by
  unfold trim trimStart
  rw [List.dropWhile_append]
  split
  · next empty =>
    have none : (after.dropWhile isBlank) = [] :=
      List.dropWhile_eq_nil_iff.mpr (List.all_eq_true.mp blank)
    rw [none, List.isEmpty_iff.mp empty]
  · exact trimEnd_append blank

theorem trim_trimEnd (text : Text) : text.trimEnd.trim = text.trim := by
  obtain ⟨after, blank, whole⟩ := text.exists_append_blank
  rw [← trim_append blank, ← whole]

theorem trimStart_append_visible {c : Char} (visible : isBlank c = false) (text rest : Text) :
    (text ++ c :: rest).trimStart = text.trimStart ++ c :: rest :=
  dropWhile_append_stop visible text rest

theorem trimEnd_append_visible {c : Char} (visible : isBlank c = false) (text rest : Text) :
    (text ++ c :: rest).trimEnd = text ++ c :: rest.trimEnd := by
  have behind := trimStart_append_visible visible rest.reverse text.reverse
  unfold trimStart at behind
  simp [trimEnd, behind]

theorem mem_of_mem_trimStart {c : Char} {text : Text} (member : c ∈ text.trimStart) : c ∈ text :=
  (List.dropWhile_sublist _).mem member

theorem mem_of_mem_trimEnd {c : Char} {text : Text} (member : c ∈ text.trimEnd) : c ∈ text :=
  List.IsPrefix.mem member (List.rdropWhile_prefix _ _)

theorem mem_of_mem_trim {c : Char} {text : Text} (member : c ∈ text.trim) : c ∈ text :=
  mem_of_mem_trimStart (mem_of_mem_trimEnd member)

theorem trim_part (text : Text) : text.trim <:+: text :=
  (List.rdropWhile_prefix isBlank text.trimStart).isInfix.trans
    (List.dropWhile_suffix isBlank).isInfix

theorem trimEnd_trimEnd (text : Text) : text.trimEnd.trimEnd = text.trimEnd :=
  List.rdropWhile_idempotent isBlank text

/-- The text neither starts nor ends with a blank, and is not empty. -/
structure Trimmed (text : Text) : Prop where
  ne_nil : text ≠ []
  start : text.trimStart = text
  stop : text.trimEnd = text

theorem Trimmed.trim {text : Text} (trimmed : text.Trimmed) : text.trim = text := by
  rw [Text.trim, trimmed.start, trimmed.stop]

theorem trimmed_trim {text : Text} (visible : text.trim ≠ []) : text.trim.Trimmed where
  ne_nil := visible
  start := by
    unfold trim at visible ⊢
    cases start : text.trimStart with
    | nil =>
      rw [start] at visible
      contradiction
    | cons c cs =>
      have first : isBlank c = false := visible_of_trimStart start
      have same : trimEnd (c :: cs) = c :: trimEnd cs := trimEnd_append_visible first [] cs
      rw [same, trimStart_cons first]
  stop := trimEnd_trimEnd _

theorem trim_trim (text : Text) : text.trim.trim = text.trim := by
  by_cases empty : text.trim = []
  · rw [empty]
    rfl
  · exact (trimmed_trim empty).trim

theorem trim_trimStart (text : Text) : text.trimStart.trim = text.trim := by
  rw [trim, trimStart_trimStart, trim]

theorem trimEnd_eq_self_iff {text : Text} :
    text.trimEnd = text ↔ ∀ nonempty : text ≠ [], ¬ isBlank (text.getLast nonempty) = true :=
  List.rdropWhile_eq_self_iff

theorem trimEnd_of_append {before text : Text} (stop : (before ++ text).trimEnd = before ++ text) :
    text.trimEnd = text := by
  rw [trimEnd_eq_self_iff] at stop ⊢
  intro nonempty
  rw [← List.getLast_append_of_ne_nil (List.append_ne_nil_of_right_ne_nil before nonempty) nonempty]
  exact stop _

theorem trim_ne_nil_of_trimEnd {text : Text} (stop : text.trimEnd = text) (nonempty : text ≠ []) :
    text.trim ≠ [] := by
  have last := trimEnd_eq_self_iff.mp stop nonempty
  rw [← List.dropLast_append_getLast nonempty, trim, trimStart_append_visible (by simpa using last),
    trimEnd_append_visible (by simpa using last)]
  exact List.append_ne_nil_of_right_ne_nil _ (List.cons_ne_nil _ _)

theorem trimmed_of_visible {text : Text} (nonempty : text ≠ [])
    (visible : ∀ c ∈ text, isBlank c = false) : text.Trimmed where
  ne_nil := nonempty
  start := by
    cases text with
    | nil => contradiction
    | cons c cs => exact trimStart_cons (visible c List.mem_cons_self)
  stop := trimEnd_eq_self_iff.mpr fun _ => by simp [visible _ (List.getLast_mem nonempty)]

theorem trimEnd_append_trimmed {last : Text} (trimmed : last.Trimmed) (text : Text) :
    (text ++ last).trimEnd = text ++ last := by
  apply trimEnd_eq_self_iff.mpr
  intro _
  rw [List.getLast_append_of_ne_nil _ trimmed.ne_nil]
  exact trimEnd_eq_self_iff.mp trimmed.stop trimmed.ne_nil

theorem trim_cons_visible {c : Char} (visible : isBlank c = false) (text : Text) :
    trim (c :: text) = c :: trimEnd text := by
  rw [trim, trimStart_cons visible]
  exact trimEnd_append_visible visible [] text

theorem trim_cons_ne_nil {c : Char} (visible : isBlank c = false) (text : Text) :
    trim (c :: text) ≠ [] := by
  rw [trim_cons_visible visible]
  exact List.cons_ne_nil _ _

theorem Trimmed.head {text : Text} (trimmed : text.Trimmed) :
    ∃ c cs, text = c :: cs ∧ isBlank c = false := by
  cases text with
  | nil => exact absurd rfl trimmed.ne_nil
  | cons c cs => exact ⟨c, cs, rfl, visible_of_trimStart trimmed.start⟩

theorem Trimmed.front {first rest : Text} {last : Char} (trimmed : Trimmed (first ++ last :: rest))
    (visible : isBlank last = false) : Trimmed (first ++ [last]) where
  ne_nil := List.append_ne_nil_of_right_ne_nil first (List.cons_ne_nil last [])
  start := by
    have start := trimmed.start
    rw [trimStart_append_visible visible] at start ⊢
    rw [List.append_cancel_right start]
  stop := trimEnd_append_visible visible first []

theorem trim_append_trimmed {last : Text} (trimmed : last.Trimmed) (text : Text) :
    (text ++ last).trim = text.trimStart ++ last := by
  have same := trimEnd_append_trimmed trimmed text.trimStart
  obtain ⟨c, cs, rfl, visible⟩ := trimmed.head
  rw [trim, trimStart_append_visible visible, same]

theorem Trimmed.append {first last : Text} (starts : first.Trimmed) (mid : Text)
    (ends : last.Trimmed) : Trimmed (first ++ (mid ++ last)) := by
  obtain ⟨c, cs, rfl, visible⟩ := starts.head
  refine ⟨by simp, trimStart_cons visible, ?_⟩
  rw [← List.append_assoc]
  exact trimEnd_append_trimmed ends _

theorem trim_eq_self_iff {text : Text} :
    text.trim = text ↔ text.trimStart = text ∧ text.trimEnd = text := by
  constructor
  · intro same
    by_cases empty : text = []
    · subst empty
      exact ⟨rfl, rfl⟩
    · have trimmed := trimmed_trim (same.trans_ne empty)
      rw [same] at trimmed
      exact ⟨trimmed.start, trimmed.stop⟩
  · rintro ⟨start, stop⟩
    rw [trim, start, stop]

end Tabletop.Text
