import Tabletop.Proofs.Composing.Fragments

/-! The words of a text. A text that is trimmed and collapsed is its words with one space between
neighbours. -/
namespace Tabletop.Text

def words (text : Text) : List Text := (text.splitOnP isBlank).filter fun word => !word.isEmpty

@[simp] theorem words_nil : words [] = [] := rfl

theorem words_append_blank {b : Char} (blank : isBlank b = true) (before after : Text) :
    words (before ++ b :: after) = words before ++ words after := by
  rw [words, List.splitOnP_append_cons before after blank, List.filter_append, words, words]

theorem words_cons_blank {b : Char} (blank : isBlank b = true) (text : Text) :
    words (b :: text) = words text :=
  words_append_blank blank [] text

theorem words_cons_visible {c : Char} (visible : isBlank c = false) (text : Text) :
    words (c :: text) = if (text.head?.map isBlank).getD true then [c] :: words text
      else (words text).modifyHead (c :: ·) := by
  have split : (c :: text).splitOnP isBlank = (text.splitOnP isBlank).modifyHead (c :: ·) := by
    rw [List.splitOnP_cons_eq_if_modifyHead, visible]
    rfl
  cases text with
  | nil => rw [words, split]; rfl
  | cons d text =>
    rw [words, split, words, List.splitOnP_cons_eq_if_modifyHead]
    cases blank : isBlank d with
    | true => simp [blank]
    | false =>
      obtain ⟨first, others, parts⟩ :=
        List.exists_cons_of_ne_nil (List.splitOnP_ne_nil isBlank text)
      simp [blank, parts]

theorem words_eq_nil_iff {text : Text} : words text = [] ↔ text.allBlank = true := by
  induction text with
  | nil => simp [allBlank]
  | cons c text ih =>
    cases blank : isBlank c with
    | true => simp [words_cons_blank blank, ih, allBlank_cons_iff, blank]
    | false =>
      have some : words (c :: text) ≠ [] := by
        rw [words_cons_visible blank]
        split
        · exact List.cons_ne_nil _ _
        · next seen =>
          cases text with
          | nil => simp at seen
          | cons d text =>
            have visible : isBlank d = false := by simpa using seen
            simpa [ih, allBlank_cons_iff] using fun blank => absurd visible (by simp [blank])
      simp [some, allBlank_cons_iff, blank]

theorem words_trimStart (text : Text) : words text.trimStart = words text := by
  induction text with
  | nil => rfl
  | cons c text ih =>
    cases blank : isBlank c with
    | true =>
        rw [words_cons_blank blank, ← ih, trimStart, List.dropWhile_cons_of_pos blank, trimStart]
    | false => rw [trimStart_cons blank]

theorem words_trimEnd (text : Text) : words text.trimEnd = words text := by
  obtain ⟨after, blank, whole⟩ := text.exists_append_blank
  cases after with
  | nil => rw [List.append_nil] at whole; rw [← whole]
  | cons b after =>
    obtain ⟨first, others⟩ := allBlank_cons_iff.mp blank
    have split := words_append_blank first text.trimEnd after
    rw [words_eq_nil_iff.mpr others, List.append_nil] at split
    rw [← split, ← whole]

theorem words_trim (text : Text) : words text.trim = words text := by
  rw [trim, words_trimEnd, words_trimStart]

theorem words_ne_nil {text : Text} (stop : text.trimEnd = text) (nonempty : text ≠ []) :
    words text ≠ [] := by
  intro none
  have empty : text.trimEnd = [] := @trimEnd_append [] text (words_eq_nil_iff.mp none)
  exact nonempty (stop.symm.trans empty)

theorem collapsed_of_trimEnd {text : Text} (stop : text.trimEnd = text) :
    text.collapsed = (if (text.head?.map isBlank).getD false then [' '] else []) ++
      joined [' '] text.words := by
  induction text with
  | nil => rfl
  | cons c text ih =>
    have others : trimEnd text = text := @trimEnd_of_append [c] text stop
    cases blank : isBlank c with
    | true =>
      rw [collapsed, blank, ih others, words_cons_blank blank]
      cases (text.head?.map isBlank).getD false <;> simp [blank]
    | false =>
      rw [collapsed, blank, ih others, words_cons_visible blank]
      cases text with
      | nil => simp [blank, joined]
      | cons d text =>
        obtain ⟨first, more, parts⟩ :=
          List.exists_cons_of_ne_nil (words_ne_nil others (List.cons_ne_nil d text))
        cases next : isBlank d with
        | true => simp [blank, next, parts, joined_cons_cons]
        | false => cases more <;> simp [blank, next, parts, joined_cons_cons, joined_singleton]

theorem collapsed_trim (text : Text) : text.trim.collapsed = joined [' '] text.words := by
  by_cases empty : text.trim = []
  · rw [← words_trim, empty]
    rfl
  · have trimmed := trimmed_trim empty
    obtain ⟨c, cs, head, visible⟩ := trimmed.head
    rw [collapsed_of_trimEnd trimmed.stop, words_trim, head]
    simp [visible]

theorem length_collapsed_le (text : Text) : text.collapsed.length ≤ text.length := by
  induction text with
  | nil => exact Nat.le_refl 0
  | cons c text ih =>
    unfold collapsed
    split
    · split
      · exact Nat.le_succ_of_le ih
      · exact Nat.succ_le_succ ih
    · exact Nat.succ_le_succ ih

theorem head?_collapsed (text : Text) :
    text.collapsed.head?.map isBlank = text.head?.map isBlank := by
  induction text with
  | nil => rfl
  | cons c text ih =>
    unfold collapsed
    split
    · next blank =>
      split
      · next more =>
        cases text with
        | nil => cases more
        | cons d text => simpa [blank] using ih.trans (congrArg some more)
      · simp only [List.head?_cons, Option.map_some, blank]
        decide
    · rfl

theorem words_collapsed (text : Text) : words text.collapsed = words text := by
  induction text with
  | nil => rfl
  | cons c text ih =>
    cases blank : isBlank c with
    | true =>
      unfold collapsed
      rw [if_pos blank, words_cons_blank blank]
      split
      · exact ih
      · rw [words_cons_blank (by decide), ih]
    | false =>
      unfold collapsed
      rw [if_neg (by simp [blank]), words_cons_visible blank, words_cons_visible blank,
        head?_collapsed, ih]

theorem length_joined_words_le (text : Text) : (joined [' '] text.words).length ≤ text.length := by
  rw [← collapsed_trim]
  exact (length_collapsed_le _).trans text.trim_part.length_le

/-- There is one space between neighbouring words, and no blank at either end. -/
def Tidy (text : Text) : Prop := joined [' '] text.words = text

theorem tidy_joined_words (text : Text) : Tidy (joined [' '] text.words) := by
  have same : words (joined [' '] text.words) = text.words := by
    rw [← collapsed_trim, words_collapsed, words_trim]
  exact congrArg (joined [' ']) same

theorem tidy_nil : Tidy [] := rfl

theorem Tidy.trim {text : Text} (tidy : Tidy text) : text.trim = text := by
  have same : text.trim.collapsed = text := (collapsed_trim text).trans tidy
  have short := length_collapsed_le text.trim
  rw [same] at short
  exact text.trim_part.sublist.eq_of_length_le short

theorem Tidy.behind {front rest : Text} (tidy : Tidy (front ++ ' ' :: rest)) : Tidy rest := by
  unfold Tidy at tidy ⊢
  rw [words_append_blank (by decide)] at tidy
  have lengths := congrArg List.length tidy
  have first := length_joined_words_le front
  have second := length_joined_words_le rest
  rw [List.length_append, List.length_cons] at lengths
  by_cases none : front.words = []
  · rw [none, List.nil_append] at lengths
    omega
  · by_cases empty : rest.words = []
    · rw [empty, List.append_nil] at lengths
      omega
    · rw [joined_append none empty] at tidy lengths
      simp only [List.length_append, List.length_singleton] at lengths
      obtain ⟨_, same⟩ := List.append_inj tidy (by omega)
      exact (List.cons.inj same).2

theorem Tidy.words_ne_nil {text : Text} (tidy : Tidy text) (nonempty : text ≠ []) :
    text.words ≠ [] := by
  intro none
  rw [Tidy, none] at tidy
  exact nonempty tidy.symm

theorem Tidy.append {front rest : Text} (first : Tidy front) (second : Tidy rest)
    (starts : front ≠ []) (ends : rest ≠ []) : Tidy (front ++ ' ' :: rest) := by
  unfold Tidy
  rw [words_append_blank (by decide),
    joined_append (first.words_ne_nil starts) (second.words_ne_nil ends), first, second,
    List.singleton_append]

theorem tidy_joined {parts : List Text} (each : ∀ part ∈ parts, part.Tidy ∧ part ≠ []) :
    Tidy (joined [' '] parts) := by
  induction parts with
  | nil => exact tidy_nil
  | cons part parts ih =>
    obtain ⟨⟨tidy, nonempty⟩, others⟩ := List.forall_mem_cons.mp each
    cases parts with
    | nil =>
      rw [joined_singleton]
      exact tidy
    | cons next parts =>
      rw [joined_cons_cons]
      exact tidy.append (ih others) nonempty
        (joined_ne_nil (others next List.mem_cons_self).2 parts)

theorem unlessEmpty_words (text : Text) :
    unlessEmpty (joined [' '] text.words) = if text.words = [] then none
      else some (joined [' '] text.words) := by
  cases parts : text.words with
  | nil => rfl
  | cons first others =>
    have member : first ∈ text.words := parts ▸ List.mem_cons_self
    have some : first ≠ [] := by simpa using (List.mem_filter.mp member).2
    simp [unlessEmpty, joined_ne_nil some others]

end Tabletop.Text
