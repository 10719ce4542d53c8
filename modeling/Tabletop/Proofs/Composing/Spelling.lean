import Tabletop.Comparator.Clause
import Tabletop.Proofs.Trimming

/-! Which texts are clauses. A sign is read as long as it can be and a value up to the next sign, so
a text has at most one spelling; what is read as a clause is a text that has one, blanks at its ends
apart. -/
namespace Tabletop

namespace Sign

theorem leading_head {sign : Sign} {rest : Text} (next : rest.head? ≠ some '=') :
    (leading (sign.symbol ++ rest)).head? = some (sign, rest) := by
  cases sign <;> cases rest <;> simp_all [leading, symbol]

theorem leading_of_not_sign {c : Char} (other : isSignChar c = false) (rest : Text) :
    leading (c :: rest) = [] := by
  simp only [isSignChar, Bool.or_eq_false_iff, beq_eq_false_iff_ne] at other
  unfold leading
  split <;> simp_all

theorem mem_leading_iff {text rest : Text} {sign : Sign} :
    (sign, rest) ∈ leading text ↔ text = sign.symbol ++ rest := by
  refine ⟨eq_append_of_mem_leading, ?_⟩
  rintro rfl
  by_cases next : rest.head? = some '='
  · obtain ⟨more, rfl⟩ := List.head?_eq_some_iff.mp next
    cases sign <;> simp [leading, symbol]
  · exact List.mem_of_mem_head? (leading_head next)

theorem eq_of_isSignChar {c : Char} (sign : isSignChar c = true) :
    c = '<' ∨ c = '>' ∨ c = '=' ∨ c = '!' := by
  simpa [isSignChar, or_assoc] using sign

theorem isSignChar_of_mem_symbol {sign : Sign} {c : Char} (member : c ∈ sign.symbol) :
    isSignChar c = true := by
  cases sign <;> simp [symbol] at member <;> rcases member with rfl | rfl <;> rfl

theorem symbol_head (sign : Sign) :
    ∃ c rest, sign.symbol = c :: rest ∧ isSignChar c = true ∧ isBlank c = false := by
  cases sign <;> exact ⟨_, _, rfl, by decide, by decide⟩

theorem length_symbol_le (sign : Sign) : sign.symbol.length ≤ 2 := by
  cases sign <;> decide

theorem symbol_injective {sign other : Sign} (same : sign.symbol = other.symbol) :
    sign = other := by
  cases sign <;> cases other <;> simp [symbol] at same ⊢

theorem pairwise_leading (text : Text) :
    (leading text).Pairwise fun longer shorter =>
      shorter.1.symbol.length < longer.1.symbol.length := by
  unfold leading
  split <;> simp [symbol]

theorem length_symbol_le_of_listed {text : Text} {earlier later : List (Sign × Text)}
    {first other : Sign × Text}
    (listed : leading text = earlier ++ first :: later) (candidate : other ∈ leading text)
    (behind : other ∉ earlier) : other.1.symbol.length ≤ first.1.symbol.length := by
  have sorted := pairwise_leading text
  rw [listed] at sorted candidate
  rcases List.mem_append.mp candidate with before | candidate
  · exact absurd before behind
  · rcases List.mem_cons.mp candidate with rfl | after
    · exact Nat.le_refl _
    · exact Nat.le_of_lt (List.rel_of_pairwise_cons (List.pairwise_append.mp sorted).2.1 after)

/-- The text is the sign with the rest behind it, and starts with no longer sign. -/
structure Longest (sign : Sign) (rest text : Text) : Prop where
  split : text = sign.symbol ++ rest
  longest : ∀ other : Sign, other.symbol <+: text → other.symbol.length ≤ sign.symbol.length

theorem head?_leading_iff {text rest : Text} {sign : Sign} :
    (leading text).head? = some (sign, rest) ↔ sign.Longest rest text := by
  constructor
  · intro head
    refine ⟨eq_append_of_mem_leading (List.mem_of_mem_head? head), ?_⟩
    rintro other ⟨more, split⟩
    obtain ⟨later, listed⟩ := List.head?_eq_some_iff.mp head
    have foremost : leading text = [] ++ (sign, rest) :: later := listed
    exact length_symbol_le_of_listed foremost (mem_leading_iff.mpr split.symm) List.not_mem_nil
  · rintro ⟨split, longest⟩
    have candidate := mem_leading_iff.mpr split
    have sorted := pairwise_leading text
    cases listed : leading text with
    | nil =>
      rw [listed] at candidate
      cases candidate
    | cons first later =>
      rw [listed] at candidate sorted
      rcases List.mem_cons.mp candidate with same | shorter
      · rw [same, List.head?_cons]
      · have start : text = first.1.symbol ++ first.2 :=
          eq_append_of_mem_leading (listed ▸ List.mem_cons_self)
        have bound := longest first.1 ⟨first.2, start.symm⟩
        exact absurd (List.rel_of_pairwise_cons sorted shorter) (Nat.not_lt_of_ge bound)

theorem Longest.head {sign : Sign} {rest text : Text} (longest : sign.Longest rest text) {c : Char}
    (first : c ∈ text.head?) : isSignChar c = true := by
  obtain ⟨d, more, symbol, isSign, _⟩ := sign.symbol_head
  rw [longest.split, symbol] at first
  exact Option.some.inj first ▸ isSign

end Sign

namespace Clause

variable {text : Text}

theorem part_eq_some_iff {value rest : Text} {sign : Sign} :
    part text = some ((sign, value), rest) ↔
      sign.Longest (value ++ rest) text ∧ value ≠ [] ∧ (∀ c ∈ value, Sign.isSignChar c = false) ∧
        ∀ c ∈ rest.head?, Sign.isSignChar c = true := by
  constructor
  · intro reads
    simp only [part, Option.bind_eq_bind, Option.bind_eq_some_iff] at reads
    obtain ⟨⟨first, behind⟩, head, read⟩ := reads
    split at read
    · cases read
    · next nonempty =>
      cases read
      refine ⟨?_, by simpa using nonempty,
        fun c member => by simpa using List.mem_takeWhile_imp member, ?_⟩
      · rw [List.takeWhile_append_dropWhile]
        exact Sign.head?_leading_iff.mp head
      · intro c first
        have stops := List.head?_dropWhile_not (fun c => !Sign.isSignChar c) behind
        rw [first] at stops
        simpa using stops
  · rintro ⟨longest, nonempty, signless, stop⟩
    have inside : ∀ c ∈ value, (!Sign.isSignChar c) = true := by simpa using signless
    have stops : ∀ c ∈ rest.head?, (!Sign.isSignChar c) = false := by simpa using stop
    obtain ⟨taken, left⟩ := Text.span_append inside stops
    have full : value.isEmpty = false := by simpa using nonempty
    simp only [part, Sign.head?_leading_iff.mpr longest, Option.bind_eq_bind, Option.bind_some,
      taken, left, full, Bool.false_eq_true, if_false]

theorem parts?_eq_some_iff {first : Sign × Text} {second : Option (Sign × Text)} :
    parts? text = some (first, second) ↔
      second = none ∧ part text = some (first, []) ∨
        ∃ other rest, second = some other ∧ part text = some (first, rest) ∧
          part rest = some (other, []) := by
  simp only [parts?, Option.bind_eq_bind, Option.bind_eq_some_iff]
  constructor
  · rintro ⟨⟨one, rest⟩, start, read⟩
    split at read
    · next ended =>
      cases read
      exact .inl ⟨rfl, List.isEmpty_iff.mp ended ▸ start⟩
    · simp only [Option.bind_eq_some_iff] at read
      obtain ⟨⟨two, last⟩, later, read⟩ := read
      split at read
      · next ended =>
        cases read
        exact .inr ⟨two, rest, rfl, start, List.isEmpty_iff.mp ended ▸ later⟩
      · cases read
  · rintro (⟨rfl, start⟩ | ⟨other, rest, rfl, start, later⟩)
    · exact ⟨_, start, rfl⟩
    · have more : rest.isEmpty = false := by
        cases rest with
        | nil => cases later
        | cons c rest => rfl
      refine ⟨_, start, ?_⟩
      simp only [more, Bool.false_eq_true, if_false, later, Option.bind_some, List.isEmpty_nil,
        if_true]

structure WrittenValue (text : Text) : Prop where
  visible : text.trim ≠ []
  signless : ∀ c ∈ text, Sign.isSignChar c = false

theorem WrittenValue.ne_nil (written : WrittenValue text) : text ≠ [] := by
  rintro rfl
  exact written.visible rfl

/-- The clause that a text spells: a sign and a value, and perhaps a second sign and value. -/
inductive Spells : Text → Clause → Prop where
  | alone {text value : Text} {sign : Sign} :
      sign.Longest value text → WrittenValue value → Spells text ⟨sign, value.trim, none⟩
  | opposed {text value rest opposed : Text} {sign other : Sign} :
      sign.Longest (value ++ rest) text → WrittenValue value → other.Longest opposed rest →
        WrittenValue opposed → Spells text ⟨sign, value.trim, some (other, opposed.trim)⟩

variable {clause : Clause}

theorem spells_of_parse? (reads : parse? text = some clause) : Spells text.trim clause := by
  simp only [parse?, Option.bind_eq_bind, Option.bind_eq_some_iff] at reads
  obtain ⟨⟨⟨sign, value⟩, second⟩, parts, read⟩ := reads
  split at read
  · cases read
  · next visible =>
    cases read
    rcases parts?_eq_some_iff.mp parts with ⟨rfl, start⟩
      | ⟨⟨other, opposed⟩, rest, rfl, start, later⟩
    · obtain ⟨longest, _, signless, _⟩ := part_eq_some_iff.mp start
      rw [List.append_nil] at longest
      exact .alone longest ⟨by simpa using visible, signless⟩
    · obtain ⟨longest, _, signless, _⟩ := part_eq_some_iff.mp start
      obtain ⟨behind, nonempty, signless', _⟩ := part_eq_some_iff.mp later
      rw [List.append_nil] at behind
      -- The second value ends the text, which has no blank at its end.
      have ends : opposed.trim ≠ [] := by
        refine Text.trim_ne_nil_of_trimEnd ?_ nonempty
        have stop := Text.trimEnd_trimEnd text.trimStart
        rw [← Text.trim, longest.split, behind.split, ← List.append_assoc,
          ← List.append_assoc] at stop
        exact Text.trimEnd_of_append stop
      have shown : opposed.trim.isEmpty = false := by simpa using ends
      simp only [Option.bind_some, shown, Bool.false_eq_true, if_false]
      exact .opposed longest ⟨by simpa using visible, signless⟩ behind ⟨ends, signless'⟩

theorem parse?_of_spells (spells : Spells text.trim clause) : parse? text = some clause := by
  unfold parse?
  generalize text.trim = core at spells
  cases spells with
  | @alone value sign longest written =>
    have start : part core = some ((sign, value), []) :=
      part_eq_some_iff.mpr ⟨by rwa [List.append_nil], written.ne_nil, written.signless, by simp⟩
    have visible : value.trim.isEmpty = false := by simpa using written.visible
    simp only [parts?_eq_some_iff.mpr (.inl ⟨rfl, start⟩), Option.bind_eq_bind, Option.bind_some,
      visible, Bool.false_eq_true, if_false, Option.bind_none]
  | @opposed value rest opposed sign other longest written behind written' =>
    have start : part core = some ((sign, value), rest) :=
      part_eq_some_iff.mpr ⟨longest, written.ne_nil, written.signless, fun c => behind.head⟩
    have later : part rest = some ((other, opposed), []) :=
      part_eq_some_iff.mpr ⟨by rwa [List.append_nil], written'.ne_nil, written'.signless, by simp⟩
    have visible : value.trim.isEmpty = false := by simpa using written.visible
    have visible' : opposed.trim.isEmpty = false := by simpa using written'.visible
    simp only [parts?_eq_some_iff.mpr (.inr ⟨_, rest, rfl, start, later⟩), Option.bind_eq_bind,
      Option.bind_some, visible, visible', Bool.false_eq_true, if_false]

end Clause
end Tabletop
