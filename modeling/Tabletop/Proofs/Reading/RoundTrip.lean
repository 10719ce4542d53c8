import Tabletop.Proofs.Reading.Printing

/-! Dice written out and read again. The text of dice that were read is a dice term again, and it
denotes the same count, sides and modifiers but for one thing: a keep modifier is written without a
count up to one, so that keeping no dice is read as keeping one. -/
namespace Tabletop

def Modifier.reread : Modifier → Modifier
  | keepHigh count => keepHigh (if count = 0 then 1 else count)
  | keepLow count => keepLow (if count = 0 then 1 else count)
  | m => m

def Dice.reread (d : Dice) : Dice := { d with modifiers := d.modifiers.map Modifier.reread }

theorem smallNumber_ofNat (n : UInt8) : SmallNumber (Text.ofNat n.toNat) n :=
  ⟨Text.numeral_ofNat _, Text.digitsValue_ofNat _⟩

theorem exists_keptCount (count : UInt8) :
    ∃ n, OptionalNumber (keptCount count) n ∧ n.getD 1 = if count = 0 then 1 else count := by
  unfold keptCount
  split
  · next many =>
    have nonzero : count ≠ 0 := by
      rintro rfl
      contradiction
    exact ⟨count, .present (smallNumber_ofNat count), (if_neg nonzero).symm⟩
  · next few =>
    refine ⟨none, .absent, ?_⟩
    split
    · rfl
    · next nonzero =>
      have positive : count.toNat ≠ 0 := fun zero => nonzero (UInt8.toNat_inj.mp zero)
      have one : count.toNat = 1 := by omega
      exact UInt8.toNat_inj.mp one.symm

namespace Modifier

theorem reread_eq_iff {m : Modifier} : m.reread = m ↔ m ≠ .keepHigh 0 ∧ m ≠ .keepLow 0 := by
  cases m with
  | keepHigh count | keepLow count => by_cases zero : count = 0 <;> simp [reread, zero]
  | _ => simp [reread]

theorem text_ne_lone (m : Modifier) : m.text ≠ ['r'] := by
  have number : ∀ n, Text.ofNat n ≠ [] := fun n => (Text.numeral_ofNat n).ne_nil
  cases m with
  | reroll condition recurse =>
    have written : condition.textAfter .atMost ≠ [] := by
      unfold Condition.textAfter Condition.text
      split <;> simp [number]
    cases recurse <;> simp [text, written]
  | explode condition recurse => cases recurse <;> simp [text]
  | keepHigh | keepLow | minimum | maximum => simp [text]

end Modifier

theorem ModifierTerm.printed {part : Text} {m : Modifier} (term : ModifierTerm part m) :
    ModifierTerm m.text m.reread := by
  cases term with
  | minimum => exact .minimum (smallNumber_ofNat _)
  | maximum => exact .maximum (smallNumber_ofNat _)
  | @reroll _ n => exact (ModifierTerm.reroll (.present (smallNumber_ofNat (n.getD 1))) :)
  | @rerollAll _ n => exact (ModifierTerm.rerollAll (.present (smallNumber_ofNat (n.getD 1))) :)
  | explode valid =>
    cases valid with
    | absent => exact .explode .absent
    | present => exact .explode (.present (smallNumber_ofNat _))
  | explodeOnce valid =>
    cases valid with
    | absent => exact .explodeOnce .absent
    | present => exact .explodeOnce (.present (smallNumber_ofNat _))
  | keepLow =>
    obtain ⟨n, valid, same⟩ := exists_keptCount _
    rw [Modifier.reread, ← same]
    exact .keepLow valid
  | keepHigh | keepHighest =>
    obtain ⟨n, valid, same⟩ := exists_keptCount _
    rw [Modifier.reread, ← same]
    exact .keepHighest valid

theorem ModifierTerms.printed {part : Text} {ms : List Modifier} (terms : ModifierTerms part ms) :
    ModifierTerms (ms.flatMap Modifier.text) (ms.map Modifier.reread) := by
  induction terms with
  | nil => exact .nil
  | @cons _ _ m ms term _ _ ih =>
    have longest := LongestModifier.of_single term.printed ih fun lone => absurd lone m.text_ne_lone
    exact .cons term.printed longest ih

namespace Dice

theorem reread_eq_iff {d : Dice} :
    d.reread = d ↔ ∀ m ∈ d.modifiers, m ≠ .keepHigh 0 ∧ m ≠ .keepLow 0 := by
  obtain ⟨count, sides, modifiers⟩ := d
  have same : modifiers.map Modifier.reread = modifiers ↔ ∀ m ∈ modifiers, m.reread = m := by
    simpa using List.map_inj_left (f := Modifier.reread) (g := id) (l := modifiers)
  simp only [reread, Dice.mk.injEq, true_and, same, Modifier.reread_eq_iff]

end Dice

theorem DiceTerm.printed {core : Text} {d : Dice} (term : DiceTerm core d) :
    DiceTerm d.text d.reread := by
  cases term with
  | @mk _ _ _ n m _ _ _ terms =>
    rw [Dice.text, List.append_assoc, List.cons_append]
    exact (DiceTerm.mk (.present (smallNumber_ofNat (n.getD 1)))
      (.number (smallNumber_ofNat m)) terms.printed :)

/-- Dice that were read are written so that reading again gives the same count, sides and modifiers
in order, except that a modifier that keeps no dice comes back as one that keeps one; and the dice
are the same exactly when there is no such modifier. -/
theorem Dice.parse_printed {text : Text} {d : Dice} (reads : Dice.parse text = .ok d) :
    Dice.parse d.text = .ok d.reread ∧
      (Dice.parse d.text = .ok d ↔ ∀ m ∈ d.modifiers, m ≠ .keepHigh 0 ∧ m ≠ .keepLow 0) := by
  obtain ⟨core, term, _⟩ := Dice.parse_eq_ok_iff_term.mp reads
  have again : Dice.parse d.text = .ok d.reread := by
    refine Dice.parse_eq_ok_iff_term.mpr ⟨d.text, term.printed, ?_⟩
    rw [Text.lowercase_of_plain d.plain_text]
    exact .refl _
  refine ⟨again, ?_⟩
  rw [again, Except.ok.injEq, Dice.reread_eq_iff]

theorem Dice.parse_printed_crowded :
    let d : Dice :=
      ⟨4, 100, [.reroll (.atMost 1) true, .keepLow 2, .keepHigh 1, .maximum 90, .explode none false,
      .explode (some (.atLeast 5)) true]⟩
    Dice.parse " 4D%rrKL2kmax90xox5 ".toList = .ok d ∧ d.text = "4d100rr1kl2khmax90xox5".toList ∧
      Dice.parse d.text = .ok d := by
  intro d
  have reads : Dice.parse " 4D%rrKL2kmax90xox5 ".toList = .ok d := rfl
  exact ⟨reads, by decide, (Dice.parse_printed reads).2.mpr (by decide)⟩

/-- Keeping no dice is written like keeping one. -/
theorem Dice.kept_none_lost :
    Dice.parse "2d6k0".toList = .ok ⟨2, 6, [.keepHigh 0]⟩ ∧
      Dice.text ⟨2, 6, [.keepHigh 0]⟩ = "2d6kh".toList ∧
      Dice.parse "2d6kh".toList = .ok ⟨2, 6, [.keepHigh 1]⟩ :=
  ⟨rfl, by decide, rfl⟩

end Tabletop
