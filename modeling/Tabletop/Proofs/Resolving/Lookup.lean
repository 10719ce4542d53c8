import Tabletop.Proofs.Resolving.References

/-! The stat that a name gives. No identifier normalizes to nothing, so a stat with the same
normalized name always answers, and the first such stat does. -/
namespace Tabletop

theorem compositeForms_ne_nil : ∀ form ∈ compositeForms, form.2 ≠ [] := by
  decide +kernel

theorem bareCodes_ne_nil (code : Nat) : bareCodes code ≠ [] := by
  unfold bareCodes
  split
  · simp [hangulLetters]
  · dsimp only
    generalize accentedForms.find? _ = base
    cases base with
    | some form => simp
    | none =>
      cases (compatibilityIdeographs.lookup code <|> supplementaryIdeographs.lookup code) with
      | some ideograph => simp
      | none =>
        cases found : compositeForms.lookup code with
        | some codes =>
          obtain ⟨before, after, split, _⟩ := List.lookup_eq_some_iff.mp found
          simpa using compositeForms_ne_nil (code, codes) (by simp [split])
        | none => simp

theorem unaccentedChar_ne_nil {c : Char} (unmarked : isMark c = false) : unaccentedChar c ≠ [] := by
  unfold unaccentedChar
  split
  · exact List.cons_ne_nil c []
  · simp [unmarked, bareCodes_ne_nil]

theorem lowercase_ne_nil {text : Text} (nonempty : text ≠ []) : text.lowercase ≠ [] := by
  cases text with
  | nil => contradiction
  | cons c cs =>
    rw [Text.lowercase, Text.lowerAfter]
    refine List.append_ne_nil_of_left_ne_nil ?_ _
    split
    · split <;> exact List.cons_ne_nil _ _
    · exact lowerChar_ne_nil c

theorem IsIdentifier.normalized_ne_nil {name : Text} (identifier : IsIdentifier name) :
    name.normalized ≠ [] := by
  obtain ⟨c, cs, rfl, start⟩ := identifier.head
  have unmarked : isMark c = false := by
    rw [isNameStart, Bool.or_eq_true, beq_iff_eq] at start
    rcases start with letter | rfl
    · exact isMark_of_isLetter letter
    · decide
  rw [Text.normalized, identifier.trimmed.trim]
  apply lowercase_ne_nil
  rw [Text.unaccented, List.flatMap_cons]
  exact List.append_ne_nil_of_left_ne_nil (unaccentedChar_ne_nil unmarked) _

theorem mem_of_mem_foldl {Entry Rank : Type}
    {step : Option (Rank × Entry) → Entry → Option (Rank × Entry)}
    (keeps : ∀ best entry, ∀ pair ∈ step best entry, pair ∈ best ∨ pair.2 = entry)
    {entries : List Entry} {start : Option (Rank × Entry)} :
    ∀ pair ∈ entries.foldl step start, pair ∈ start ∨ pair.2 ∈ entries := by
  induction entries generalizing start with
  | nil => exact fun pair member => .inl member
  | cons entry entries ih =>
    intro pair member
    rcases ih pair member with first | later
    · rcases keeps start entry pair first with before | rfl
      · exact .inl before
      · exact .inr List.mem_cons_self
    · exact .inr (List.mem_cons_of_mem _ later)

theorem mem_of_firstBest? {Entry Rank : Type} {better : Rank → Rank → Bool}
    {rank : Entry → Option Rank} {entries : List Entry} {entry : Entry}
    (best : firstBest? better rank entries = some entry) : entry ∈ entries := by
  simp only [firstBest?, Option.map_eq_some_iff] at best
  obtain ⟨pair, best, rfl⟩ := best
  refine (mem_of_mem_foldl (fun best entry pair member => ?_) pair best).resolve_left (by simp)
  split at member
  · exact .inl member
  · cases member
    exact .inr rfl
  · split at member
    · cases member
      exact .inr rfl
    · exact .inl member

theorem StatSheet.mem_of_find? {sheet : StatSheet} {term : Text} {least : Score} {found : Found}
    (answers : sheet.find? term least = some found) :
    (found.name, found.value) ∈ sheet.entries := by
  unfold find? at answers
  dsimp only at answers
  split at answers
  · cases answers
  · simp only [Option.orElse_eq_orElse, Option.orElse_eq_or, Option.or_eq_some_iff, named?,
      containing?, alike?, Option.map_eq_some_iff] at answers
    obtain ⟨entry, first, rfl⟩ | ⟨_, ⟨entry, first, rfl⟩ | ⟨_, entry, first, rfl⟩⟩ := answers
    · exact List.mem_of_find?_eq_some first
    · exact mem_of_firstBest? first
    · exact mem_of_firstBest? first

def StatSheet.Gives (sheet : StatSheet) (name : Text) (value : Amount) : Prop :=
  ∃ before stat after, sheet.entries = before ++ (stat, value) :: after ∧
    stat.normalized = name.normalized ∧ ∀ entry ∈ before, entry.1.normalized ≠ name.normalized

namespace StatSheet.Gives

variable {name : Text} {value : Amount}

theorem find? {sheet : StatSheet} (gives : sheet.Gives name value) (identifier : IsIdentifier name)
    (least : Score) : ∃ stat, sheet.find? name least = some ⟨stat, value, .exact⟩ := by
  obtain ⟨before, stat, after, entries, same, earlier⟩ := gives
  have first : sheet.entries.find? (fun entry => entry.1.normalized = name.normalized) =
      some (stat, value) := by
    have skipped : before.find? (fun entry => entry.1.normalized = name.normalized) = none :=
      List.find?_eq_none.mpr fun entry member => by simpa using earlier entry member
    rw [entries, List.find?_append, skipped]
    simp [same]
  refine ⟨stat, ?_⟩
  simp [StatSheet.find?, identifier.normalized_ne_nil, StatSheet.named?, first]

variable {resolver : Resolver}

theorem forDollar (gives : resolver.sheet.Gives name value) (identifier : IsIdentifier name)
    (whole : Text) : (resolver.forDollar name whole).1 = value.operand := by
  obtain ⟨stat, found⟩ := gives.find? identifier resolver.similarity
  simp [Resolver.forDollar, Resolver.find?, found]

theorem forGroup (gives : resolver.sheet.Gives name value) (identifier : IsIdentifier name)
    (other : isDiceName name = false) (whole : Text) :
    (resolver.forGroup name whole).1 = value.operand := by
  simp [Resolver.forGroup, other, gives.forDollar identifier]

end StatSheet.Gives
end Tabletop
