import Tabletop.Proofs.Classes
import Tabletop.Proofs.Reading.Characters
import Tabletop.Proofs.Trimming

/-! The lower case of texts that read as dice notation. It is made character by character, for the
one capital that looks around itself has no place in such a text; blanks and signs stay where they
are. -/
namespace Tabletop

namespace Text

theorem lowerAfter_eq_flatMap {text : Text} (fresh : 'Σ' ∉ text) (before : Text) :
    lowerAfter before text = text.flatMap lowerChar := by
  induction text generalizing before with
  | nil => rfl
  | cons c cs ih =>
    have other : c ≠ 'Σ' := fun same => fresh (same ▸ List.mem_cons_self)
    have others := ih (fun member => fresh (List.mem_cons_of_mem c member)) (c :: before)
    simp [lowerAfter, other, others]

theorem sigma_mem_lowerAfter {text : Text} (member : 'Σ' ∈ text) (before : Text) :
    'σ' ∈ lowerAfter before text ∨ 'ς' ∈ lowerAfter before text := by
  induction text generalizing before with
  | nil => cases member
  | cons c cs ih =>
    rw [lowerAfter]
    rcases List.mem_cons.mp member with rfl | later
    · simp only [beq_self_eq_true, if_true]
      split
      · exact .inr (List.mem_append_left _ List.mem_cons_self)
      · exact .inl (List.mem_append_left _ List.mem_cons_self)
    · exact (ih later (c :: before)).imp (List.mem_append_right _) (List.mem_append_right _)

theorem sigma_not_mem {text : Text} (inside : text.lowercase.all isExprChar = true) :
    'Σ' ∉ text := by
  intro member
  rcases sigma_mem_lowerAfter member [] with small | small
  · exact not_mem_of_all inside (by decide) small
  · exact not_mem_of_all inside (by decide) small

theorem lowercase_eq_flatMap {text : Text} (inside : text.lowercase.all isExprChar = true) :
    text.lowercase = text.flatMap lowerChar :=
  lowerAfter_eq_flatMap (sigma_not_mem inside) []

theorem mem_of_mem_flatMap_lowerChar {text : Text} {m : Char} (caseless : isCaseless m = true)
    (member : m ∈ text.flatMap lowerChar) : m ∈ text := by
  obtain ⟨c, listed, small⟩ := List.mem_flatMap.mp member
  exact eq_of_mem_lowerChar caseless small ▸ listed

theorem exists_cons_of_flatMap_lowerChar {text rest : Text} {m : Char}
    (caseless : isCaseless m = true) (lower : text.flatMap lowerChar = m :: rest) :
    ∃ more, text = m :: more ∧ more.flatMap lowerChar = rest := by
  cases text with
  | nil => cases lower
  | cons c more =>
    obtain ⟨x, xs, small⟩ := List.exists_cons_of_ne_nil (lowerChar_ne_nil c)
    rw [List.flatMap_cons, small] at lower
    obtain ⟨rfl, behind⟩ := List.cons.inj lower
    obtain rfl := eq_of_mem_lowerChar caseless (small ▸ List.mem_cons_self)
    rw [lowerChar_of_isCaseless caseless] at small
    cases small
    exact ⟨more, rfl, behind⟩

theorem exists_letter_of_flatMap_lowerChar {text rest : Text}
    (lower : text.flatMap lowerChar = 'd' :: rest) :
    ∃ c more, text = c :: more ∧ (c = 'd' ∨ c = 'D') ∧ more.flatMap lowerChar = rest := by
  cases text with
  | nil => cases lower
  | cons c more =>
    obtain ⟨x, xs, small⟩ := List.exists_cons_of_ne_nil (lowerChar_ne_nil c)
    have letter : c = 'd' ∨ c = 'D' := by
      rw [List.flatMap_cons, small] at lower
      obtain ⟨rfl, _⟩ := List.cons.inj lower
      exact eq_of_d_mem_lowerChar (small ▸ List.mem_cons_self)
    have same : lowerChar c = ['d'] := by rcases letter with rfl | rfl <;> decide
    rw [List.flatMap_cons, same] at lower
    exact ⟨c, more, rfl, letter, (List.cons.inj lower).2⟩

theorem flatMap_lowerChar_of_caseless {text : Text} (caseless : ∀ c ∈ text, isCaseless c = true) :
    text.flatMap lowerChar = text := by
  induction text with
  | nil => rfl
  | cons c cs ih =>
    rw [List.flatMap_cons, lowerChar_of_isCaseless (caseless c List.mem_cons_self),
      ih fun d member => caseless d (List.mem_cons_of_mem c member), List.singleton_append]

theorem isCaseless_of_isBlank {c : Char} (blank : isBlank c = true) : isCaseless c = true := by
  simp [isCaseless, blank]

theorem flatMap_lowerChar_of_blank {text : Text} (blank : text.allBlank = true) :
    text.flatMap lowerChar = text :=
  flatMap_lowerChar_of_caseless fun c member =>
    isCaseless_of_isBlank (List.all_eq_true.mp blank c member)

theorem visible_lowerChar {c : Char} (visible : isBlank c = false) :
    ∀ m ∈ lowerChar c, isBlank m = false := by
  refine fun m member => Bool.eq_false_iff.mpr fun blank => ?_
  rw [eq_of_mem_lowerChar (isCaseless_of_isBlank blank) member, blank] at visible
  cases visible

theorem Trimmed.flatMap {text : Text} {spell : Char → Text}
    (visible : ∀ c, isBlank c = false → spell c ≠ [] ∧ ∀ m ∈ spell c, isBlank m = false)
    (trimmed : text.Trimmed) : Trimmed (text.flatMap spell) := by
  obtain ⟨c, cs, same, seen⟩ := trimmed.head
  obtain ⟨d, ds, first⟩ := List.exists_cons_of_ne_nil (visible c seen).1
  have start : text.flatMap spell = d :: (ds ++ cs.flatMap spell) := by
    rw [same, List.flatMap_cons, first, List.cons_append]
  have shown : isBlank d = false := (visible c seen).2 d (first ▸ List.mem_cons_self)
  have seen : isBlank (text.getLast trimmed.ne_nil) = false :=
    Bool.eq_false_iff.mpr (trimEnd_eq_self_iff.mp trimmed.stop trimmed.ne_nil)
  have last := trimmed_of_visible (visible _ seen).1 (visible _ seen).2
  refine ⟨by simp [start], by rw [start, trimStart_cons shown], ?_⟩
  rw [← List.dropLast_append_getLast trimmed.ne_nil, List.flatMap_append, List.flatMap_singleton]
  exact trimEnd_append_trimmed last _

theorem Trimmed.lower {text : Text} (trimmed : text.Trimmed) : Trimmed (text.flatMap lowerChar) :=
  trimmed.flatMap fun c visible => ⟨lowerChar_ne_nil c, visible_lowerChar visible⟩

end Text

theorem Spaced.lower {core text : Text} (spaced : Spaced core text) :
    Spaced (core.flatMap lowerChar) (text.flatMap lowerChar) := by
  obtain ⟨before, after, starts, ends, rfl⟩ := spaced
  refine ⟨before, after, starts, ends, ?_⟩
  rw [List.flatMap_append, List.flatMap_append, Text.flatMap_lowerChar_of_blank starts,
    Text.flatMap_lowerChar_of_blank ends]

theorem Spaced.trim {core text : Text} (spaced : Spaced core text) (trimmed : core.Trimmed) :
    text.trim = core := by
  obtain ⟨before, after, starts, ends, rfl⟩ := spaced
  have none : before.trimStart = [] := List.dropWhile_eq_nil_iff.mpr (List.all_eq_true.mp starts)
  rw [← List.append_assoc, Text.trim_append ends, Text.trim_append_trimmed trimmed, none,
    List.nil_append]

end Tabletop
