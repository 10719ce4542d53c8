import Tabletop.Text.Reader

/-! The combinators of readers without their cases and bounds. When every reading takes at least one
character, the first reading and a repetition on what follows it make up the whole repetition. -/
namespace Tabletop.Reader

variable {α β : Type} {reader : Reader α}

theorem or_eq_some_iff {first second : Reader α} {text : Text} {reading : α × Text} :
    or first second text = some reading ↔
      first text = some reading ∨ (first text = none ∧ second text = some reading) := by
  unfold Reader.or
  cases first text <;> simp

theorem or_of_some {first second : Reader α} {text : Text} {reading : α × Text}
    (reads : first text = some reading) : or first second text = some reading :=
  or_eq_some_iff.mpr (.inl reads)

theorem or_of_none {first second : Reader α} {text : Text} (fails : first text = none) :
    or first second text = second text := by
  unfold Reader.or
  rw [fails]
  rfl

theorem map_eq_some_iff {f : α → β} {text rest : Text} {value : β} :
    map f reader text = some (value, rest) ↔ ∃ a, reader text = some (a, rest) ∧ f a = value := by
  unfold Reader.map
  simp only [Option.map_eq_some_iff, Prod.exists, Prod.mk.injEq]
  constructor
  · rintro ⟨a, after, reads, same, rfl⟩
    exact ⟨a, reads, same⟩
  · rintro ⟨a, reads, same⟩
    exact ⟨a, rest, reads, same, rfl⟩

theorem char_eq_some_iff {c : Char} {text rest : Text} {u : Unit} :
    char c text = some (u, rest) ↔ text = c :: rest := by
  cases text with
  | nil => simp [Reader.char]
  | cons d ds => by_cases same : d = c <;> simp [Reader.char, same]

theorem char_self (c : Char) (rest : Text) : char c (c :: rest) = some ((), rest) :=
  char_eq_some_iff.mpr rfl

theorem char_eq_none_iff {c : Char} {text : Text} : char c text = none ↔ text.head? ≠ some c := by
  cases text with
  | nil => simp [Reader.char]
  | cons d ds => by_cases same : d = c <;> simp [Reader.char, same]

theorem word_eq_some_iff {expected text rest : Text} {u : Unit} :
    word expected text = some (u, rest) ↔ text = expected ++ rest := by
  simp [word, Text.after?_eq_some_iff]

theorem optional_of_some {text rest : Text} {value : α} (reads : reader text = some (value, rest)) :
    optional reader text = (some value, rest) := by
  simp only [optional, reads]

theorem optional_of_none {text : Text} (fails : reader text = none) :
    optional reader text = (none, text) := by
  simp only [optional, fails]

def Sound (reader : Reader α) (language : Text → α → Prop) : Prop :=
  ∀ text value rest, reader text = some (value, rest) →
    ∃ part, language part value ∧ text = part ++ rest

/-- Every reading takes at least one character. -/
def Shortens (reader : Reader α) : Prop :=
  ∀ text value rest, reader text = some (value, rest) → rest.length < text.length

/-- What holds of a text whenever it holds of what a reading leaves of it holds of every text. -/
theorem Shortens.induct (shortens : Shortens reader) {motive : Text → Prop}
    (step : ∀ text, (∀ value rest, reader text = some (value, rest) → motive rest) → motive text)
    (text : Text) : motive text :=
  step text fun _ rest _ => shortens.induct step rest
termination_by text.length
decreasing_by exact shortens _ _ _ (by assumption)

theorem Shortens.nil (shortens : Shortens reader) : reader [] = none := by
  cases found : reader [] with
  | none => rfl
  | some reading => exact absurd (shortens [] reading.1 reading.2 found) (Nat.not_lt_zero _)

theorem repeatedWithin_irrelevant (shortens : Shortens reader) (bound : Nat) :
    ∀ (other : Nat) (text : Text), text.length ≤ bound → text.length ≤ other →
      repeatedWithin reader bound text = repeatedWithin reader other text := by
  induction bound with
  | zero =>
    intro other text short _
    cases List.eq_nil_of_length_eq_zero (Nat.le_zero.mp short)
    cases other with
    | zero => rfl
    | succ other => simp only [repeatedWithin, shortens.nil]
  | succ bound ih =>
    intro other text short fits
    cases other with
    | zero =>
      cases List.eq_nil_of_length_eq_zero (Nat.le_zero.mp fits)
      simp only [repeatedWithin, shortens.nil]
    | succ other =>
      cases found : reader text with
      | none => simp only [repeatedWithin, found]
      | some reading =>
        have shorter := shortens text reading.1 reading.2 found
        simp only [repeatedWithin, found, ih other reading.2 (by omega) (by omega)]

theorem repeated_of_none {text : Text} (fails : reader text = none) :
    repeated reader text = ([], text) := by
  unfold repeated
  cases text with
  | nil => rfl
  | cons c cs => simp only [List.length_cons, repeatedWithin, fails]

theorem repeated_of_some (shortens : Shortens reader) {text rest : Text} {value : α}
    (reads : reader text = some (value, rest)) :
    repeated reader text = (value :: (repeated reader rest).1, (repeated reader rest).2) := by
  have shorter := shortens text value rest reads
  obtain ⟨bound, length⟩ : ∃ bound, text.length = bound + 1 := ⟨text.length - 1, by omega⟩
  have same := repeatedWithin_irrelevant shortens bound rest.length rest (by omega) (Nat.le_refl _)
  unfold repeated
  simp only [length, repeatedWithin, reads, same]

end Tabletop.Reader
