import Mathlib.Data.List.Infix
import Tabletop.Proofs.Composing.Tails

/-! Placeholders that are filled in. Filling takes the character behind a placeholder along and goes
on behind it, so of the dollar signs in a run it looks at every other one. It is done after one time
unless a dollar sign that it passed over still has no name behind it. -/
namespace Tabletop

variable {value formula text : Text}

def Unnamed (text : Text) : Prop := ∀ c ∈ text.head?, isNameChar c = false

def StartsBare (text : Text) : Prop := ∃ rest, text = '$' :: rest ∧ Unnamed rest

def HoldsBare (text : Text) : Prop := ∃ start, start <:+ text ∧ StartsBare start

/-- A pair of dollar signs, counted from the start of their run, of which filling passes over the
second: no name goes on behind the pair, and if there is another placeholder, none starts with the
value that takes its place. -/
def SkipsDollar (value formula : Text) : Prop :=
  ∃ front pairs after, formula = front ++ (List.replicate (2 * (pairs + 1)) '$' ++ after) ∧
    front.getLast? ≠ some '$' ∧ Unnamed after ∧ (StartsBare after → Unnamed value)

@[simp] theorem unnamed_nil : Unnamed [] := fun _ member => by cases member

@[simp] theorem unnamed_cons_iff {c : Char} {cs : Text} :
    Unnamed (c :: cs) ↔ isNameChar c = false := by
  simp [Unnamed]

@[simp] theorem startsBare_cons_iff {c : Char} {cs : Text} :
    StartsBare (c :: cs) ↔ c = '$' ∧ Unnamed cs := by
  simp [StartsBare]

@[simp] theorem not_startsBare_nil : ¬ StartsBare [] := by simp [StartsBare]

@[simp] theorem not_holdsBare_nil : ¬ HoldsBare [] := by simp [HoldsBare]

theorem holdsBare_cons_iff {c : Char} {cs : Text} :
    HoldsBare (c :: cs) ↔ StartsBare (c :: cs) ∨ HoldsBare cs := by
  simp only [HoldsBare, List.suffix_cons_iff, or_and_right, exists_or, exists_eq_left]

theorem holdsBare_append_iff (undollared : '$' ∉ value) :
    HoldsBare (value ++ text) ↔ HoldsBare text := by
  induction value with
  | nil => rfl
  | cons c cs ih =>
    have other : c ≠ '$' := fun same => undollared (same ▸ List.mem_cons_self)
    rw [List.cons_append, holdsBare_cons_iff, ih fun member =>
      undollared (List.mem_cons_of_mem c member)]
    simp [other]

theorem not_holdsBare_of_not_mem (undollared : '$' ∉ value) : ¬ HoldsBare value := by
  rw [← List.append_nil value, holdsBare_append_iff undollared]
  exact not_holdsBare_nil

theorem not_skipsDollar_nil : ¬ SkipsDollar value [] := by
  rintro ⟨front, pairs, after, split, _⟩
  simp [Nat.mul_add] at split

theorem not_skipsDollar_alone : ¬ SkipsDollar value ['$'] := by
  rintro ⟨front, pairs, after, split, _⟩
  have length := congrArg List.length split
  simp at length
  omega

theorem skipsDollar_cons_of_ne {c : Char} {cs : Text} (other : c ≠ '$') :
    SkipsDollar value (c :: cs) ↔ SkipsDollar value cs := by
  constructor
  · rintro ⟨front, pairs, after, split, ends, facts⟩
    cases front with
    | nil => simp [Nat.mul_add, List.replicate_succ, other] at split
    | cons d front =>
      obtain ⟨rfl, rfl⟩ := List.cons.inj split
      refine ⟨front, pairs, after, rfl, fun last => ends ?_, facts⟩
      rw [List.getLast?_cons, last]
      rfl
  · rintro ⟨front, pairs, after, rfl, ends, facts⟩
    refine ⟨c :: front, pairs, after, rfl, ?_, facts⟩
    rw [List.getLast?_cons]
    cases last : front.getLast? with
    | none => simpa using other
    | some d => simpa [last] using ends

theorem skipsDollar_single {c : Char} {cs : Text} (other : c ≠ '$') :
    SkipsDollar value ('$' :: c :: cs) ↔ SkipsDollar value (c :: cs) := by
  constructor
  · rintro ⟨front, pairs, after, split, ends, facts⟩
    rcases front with _ | ⟨d, _ | ⟨e, front⟩⟩
    · simp [Nat.mul_add, List.replicate_succ, other] at split
    · obtain ⟨rfl, _⟩ := List.cons.inj split
      simp at ends
    · obtain ⟨rfl, rest⟩ := List.cons.inj split
      exact ⟨e :: front, pairs, after, rest, by simpa using ends, facts⟩
  · rintro ⟨front, pairs, after, split, ends, facts⟩
    cases front with
    | nil => simp [Nat.mul_add, List.replicate_succ, other] at split
    | cons d front =>
        exact ⟨'$' :: d :: front, pairs, after, by rw [split]; rfl, by simpa using ends, facts⟩

theorem skipsDollar_pair {cs : Text} :
    SkipsDollar value ('$' :: '$' :: cs) ↔ (Unnamed cs ∧ (StartsBare cs → Unnamed value)) ∨
      SkipsDollar value cs := by
  have double (pairs : Nat) (after : Text) : List.replicate (2 * (pairs + 1)) '$' ++ after =
      '$' :: '$' :: (List.replicate (2 * pairs) '$' ++ after) := by
    simp [Nat.mul_add, List.replicate_succ]
  constructor
  · rintro ⟨front, pairs, after, split, ends, facts⟩
    rcases front with _ | ⟨d, _ | ⟨e, front⟩⟩
    · rw [List.nil_append, double] at split
      obtain rfl := (List.cons.inj (List.cons.inj split).2).2
      cases pairs with
      | zero => exact .inl facts
      | succ pairs => exact .inr ⟨[], pairs, after, rfl, by simp, facts⟩
    · obtain ⟨rfl, _⟩ := List.cons.inj split
      simp at ends
    · obtain ⟨rfl, rest⟩ := List.cons.inj split
      obtain ⟨rfl, rfl⟩ := List.cons.inj rest
      refine .inr ⟨front, pairs, after, rfl, fun last => ends ?_, facts⟩
      simp [List.getLast?_cons, last]
  · rintro (facts | ⟨front, pairs, after, rfl, ends, facts⟩)
    · exact ⟨[], 0, cs, rfl, by simp, facts⟩
    · cases front with
      | nil => exact ⟨[], pairs + 1, after, by rw [double (pairs + 1)]; rfl, by simp, facts⟩
      | cons d front =>
          exact ⟨'$' :: '$' :: d :: front, pairs, after, rfl, by simpa using ends, facts⟩

theorem SkipsDollar.neighbours (skips : SkipsDollar value formula) : ['$', '$'] <:+: formula := by
  obtain ⟨front, pairs, after, rfl, _⟩ := skips
  exact ⟨front, List.replicate (2 * pairs) '$' ++ after, by simp [Nat.mul_add, List.replicate_succ]⟩

theorem isNameChar_dollar : isNameChar '$' = false := by decide

theorem ne_dollar_of_isNameChar {c : Char} (named : isNameChar c = true) : c ≠ '$' := by
  rintro rfl
  rw [isNameChar_dollar] at named
  cases named

theorem unnamed_fillPlaceholder_iff :
    Unnamed (fillPlaceholder value text) ↔ Unnamed text ∧ (StartsBare text → Unnamed value) := by
  cases text with
  | nil =>
    exact ⟨fun _ => ⟨unnamed_nil, fun bare => absurd bare not_startsBare_nil⟩, fun _ => unnamed_nil⟩
  | cons c text =>
    by_cases dollar : c = '$'
    · subst dollar
      cases text with
      | nil => simp [isNameChar_dollar]
      | cons d text =>
        cases named : isNameChar d with
        | true =>
          rw [fillPlaceholder_named named]
          simp [isNameChar_dollar, named]
        | false =>
          rw [fillPlaceholder_unnamed named]
          cases value <;> simp [isNameChar_dollar, named]
    · rw [fillPlaceholder_cons_of_ne dollar]
      simp [dollar]

theorem holdsBare_fillPlaceholder_iff (undollared : '$' ∉ value) (formula : Text) :
    HoldsBare (fillPlaceholder value formula) ↔ SkipsDollar value formula := by
  induction formula using fillPlaceholder_induction with
  | nil => exact iff_of_false not_holdsBare_nil not_skipsDollar_nil
  | plain c text other ih =>
    rw [fillPlaceholder_cons_of_ne other, holdsBare_cons_iff, ih, skipsDollar_cons_of_ne other]
    simp [other]
  | alone =>
    rw [fillPlaceholder_alone]
    exact iff_of_false (not_holdsBare_of_not_mem undollared) not_skipsDollar_alone
  | named c text named ih =>
    have other := ne_dollar_of_isNameChar named
    rw [fillPlaceholder_named named, holdsBare_cons_iff, ih, skipsDollar_single other,
      fillPlaceholder_cons_of_ne other]
    simp [named]
  | unnamed c text unnamed ih =>
    rw [fillPlaceholder_unnamed unnamed, holdsBare_append_iff undollared, holdsBare_cons_iff, ih]
    by_cases pair : c = '$'
    · subst pair
      rw [skipsDollar_pair, startsBare_cons_iff, unnamed_fillPlaceholder_iff]
      simp
    · rw [skipsDollar_single pair, skipsDollar_cons_of_ne pair]
      simp [pair]

theorem count_fillPlaceholder (undollared : '$' ∉ value) (formula : Text) :
    (fillPlaceholder value formula).count '$' ≤ formula.count '$' ∧
      (HoldsBare formula → (fillPlaceholder value formula).count '$' < formula.count '$') := by
  have none : value.count '$' = 0 := List.count_eq_zero.mpr undollared
  induction formula using fillPlaceholder_induction with
  | nil => exact ⟨Nat.le_refl _, fun bare => absurd bare not_holdsBare_nil⟩
  | plain c text other ih =>
    obtain ⟨le, lt⟩ := ih
    rw [fillPlaceholder_cons_of_ne other, holdsBare_cons_iff, List.count_cons_of_ne other,
      List.count_cons_of_ne other]
    exact ⟨le, fun bare => lt (bare.resolve_left (by simp [other]))⟩
  | alone => simp [none]
  | named c text named ih =>
    obtain ⟨le, lt⟩ := ih
    rw [fillPlaceholder_named named, holdsBare_cons_iff, List.count_cons_self, List.count_cons_self]
    have bare : ¬ StartsBare ('$' :: c :: text) := by simp [named]
    exact ⟨Nat.succ_le_succ le, fun held => Nat.succ_lt_succ (lt (held.resolve_left bare))⟩
  | unnamed c text unnamed ih =>
    obtain ⟨le, _⟩ := ih
    rw [fillPlaceholder_unnamed unnamed, List.count_append, none, List.count_cons_self,
      List.count_cons, List.count_cons]
    exact ⟨by omega, fun _ => by omega⟩

theorem placeholder_of_not_bare (unheld : ¬ StartsBare text) : placeholder text = none := by
  unfold placeholder
  split
  · simp at unheld
  · next c rest _ => simpa using unheld
  · rfl

theorem fillPlaceholder_eq_self_iff (undollared : '$' ∉ value) :
    fillPlaceholder value text = text ↔ ¬ HoldsBare text := by
  constructor
  · intro same bare
    have fewer := (count_fillPlaceholder undollared text).2 bare
    rw [same] at fewer
    omega
  · intro unheld
    induction text with
    | nil => rfl
    | cons c cs ih =>
      rw [holdsBare_cons_iff, not_or] at unheld
      exact (Reader.substituted_cons (placeholder_of_not_bare unheld.1)).trans
        (congrArg _ (ih unheld.2))

/-- A dollar sign without a name is left over, and filling again changes the formula, exactly where
one was passed over behind a filled placeholder; where no two dollar signs are neighbours, all are
filled in at once. -/
theorem fillPlaceholder_leaves_iff (undollared : '$' ∉ value) (formula : Text) :
    (HoldsBare (fillPlaceholder value formula) ↔ SkipsDollar value formula) ∧
      (fillPlaceholder value (fillPlaceholder value formula) = fillPlaceholder value formula ↔
        ¬ SkipsDollar value formula) ∧
      (¬ ['$', '$'] <:+: formula → ¬ HoldsBare (fillPlaceholder value formula)) := by
  have left := holdsBare_fillPlaceholder_iff undollared formula
  refine ⟨left, ?_, fun apart held => apart (left.mp held).neighbours⟩
  rw [fillPlaceholder_eq_self_iff undollared, left]

theorem fillPlaceholder_leaves_named :
    '$' ∉ ['4', '5'] ∧
      fillPlaceholder ['4', '5'] ['$', '+', '$', 's', '<', '=', '$', '$', '$'] =
        ['4', '5', '+', '$', 's', '<', '=', '4', '5', '$', '4', '5'] ∧
      ¬ SkipsDollar ['4', '5'] ['$', '+', '$', 's', '<', '=', '$', '$', '$'] ∧
      ¬ HoldsBare (fillPlaceholder ['4', '5'] ['$', '+', '$', 's', '<', '=', '$', '$', '$']) := by
  have leaves := fillPlaceholder_leaves_iff (show '$' ∉ ['4', '5'] by decide)
    ['$', '+', '$', 's', '<', '=', '$', '$', '$']
  have settled : fillPlaceholder ['4', '5']
      (fillPlaceholder ['4', '5'] ['$', '+', '$', 's', '<', '=', '$', '$', '$']) =
    fillPlaceholder ['4', '5'] ['$', '+', '$', 's', '<', '=', '$', '$', '$'] := by decide
  exact ⟨by decide, by decide, leaves.2.1.mp settled,
    fun held => leaves.2.1.mp settled (leaves.1.mp held)⟩

/-- Of two neighbours the second is left, and only filled in when the formula is filled once
more. -/
theorem fillPlaceholder_skips_neighbour :
    '$' ∉ ['5'] ∧ HoldsBare (fillPlaceholder ['5'] ['$', '$']) ∧
      fillPlaceholder ['5'] (fillPlaceholder ['5'] ['$', '$']) ≠ fillPlaceholder ['5'] ['$', '$'] :=
  ⟨by decide, ⟨['$'], ⟨['5'], rfl⟩, [], rfl, unnamed_nil⟩, by decide⟩

end Tabletop
