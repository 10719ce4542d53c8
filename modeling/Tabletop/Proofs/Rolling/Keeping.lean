import Mathlib.Data.List.Sort
import Tabletop.Proofs.Rolling.Step

/-! Which dice a keep modifier keeps. The kept dice have one order, by value and among equals by
position; keeping the lowest keeps a first part of it and keeping the highest a last part, and
nothing but the others changes. -/
namespace Tabletop

def Keeps (rolls : List Die) (i : Nat) : Prop := ∃ die, rolls[i]? = some die ∧ die.isKept = true

def Before (rolls : List Die) (i j : Nat) : Prop :=
  ∃ a b, rolls[i]? = some a ∧ rolls[j]? = some b ∧ (a.value < b.value ∨ a.value = b.value ∧ i < j)

/-- The positions of the kept dice from the lowest die to the highest. -/
structure IsOrder (rolls : List Die) (order : List Nat) : Prop where
  kept : ∀ i, i ∈ order ↔ Keeps rolls i
  sorted : order.Pairwise (Before rolls)

variable {rolls : List Die} {order chosen : List Nat} {cause : Modifier}

theorem Before.asymm {i j : Nat} (first : Before rolls i j) : ¬ Before rolls j i := by
  rintro ⟨b, a, atJ, atI, back⟩
  obtain ⟨a', b', atI', atJ', forth⟩ := first
  obtain rfl := Option.some.inj (atI.symm.trans atI')
  obtain rfl := Option.some.inj (atJ.symm.trans atJ')
  simp only [UInt8.lt_iff_toNat_lt, ← UInt8.toNat_inj] at forth back
  omega

instance (rolls : List Die) : Std.Asymm (Before rolls) := ⟨fun _ _ first => first.asymm⟩

namespace IsOrder

theorem nodup (ordered : IsOrder rolls order) : order.Nodup := by
  apply ordered.sorted.imp
  rintro i _ first rfl
  exact first.asymm first

theorem unique {other : List Nat} (first : IsOrder rolls order) (second : IsOrder rolls other) :
    order = other :=
  List.Pairwise.eq_of_mem_iff first.sorted second.sorted fun i =>
    (first.kept i).trans (second.kept i).symm

end IsOrder

/-- A stable sort leaves equals in the order in which they stood. -/
theorem pairwise_mergeSort_ties {α : Type} {le : α → α → Bool} {earlier : α → α → Prop}
    (trans : ∀ a b c, le a b = true → le b c = true → le a c = true)
    (total : ∀ a b, (le a b || le b a) = true) {l : List α} (stood : l.Pairwise earlier) :
    (l.mergeSort le).Pairwise fun a b => le b a = true → earlier a b := by
  induction l with
  | nil => simp
  | cons a l ih =>
    obtain ⟨before, after, whole, others, below⟩ := List.mergeSort_cons trans total a l
    have rest := ih (List.pairwise_cons.mp stood).2
    rw [others, List.pairwise_append] at rest
    rw [whole, List.pairwise_append, List.pairwise_cons]
    refine ⟨rest.1, ⟨fun b member _ => ?_, rest.2.1⟩, fun b member c other => ?_⟩
    · have inside : b ∈ l := by
        have sorted : b ∈ l.mergeSort le := others ▸ List.mem_append_right before member
        exact List.mem_mergeSort.mp sorted
      exact (List.pairwise_cons.mp stood).1 b inside
    · rcases List.mem_cons.mp other with rfl | later
      · intro back
        have strict := below b member
        simp [back] at strict
      · exact rest.2.2 b member c later

theorem isOrder_ranking (rolls : List Die) : IsOrder rolls ((ranking rolls).map (·.2)) where
  kept i := by
    simp only [ranking, List.mem_map, List.mem_mergeSort, List.mem_filter,
      List.mem_zipIdx_iff_getElem?]
    constructor
    · rintro ⟨⟨die, i⟩, ⟨present, kept⟩, rfl⟩
      exact ⟨die, present, kept⟩
    · rintro ⟨die, present, kept⟩
      exact ⟨(die, i), ⟨present, kept⟩, rfl⟩
  sorted := by
    have trans : ∀ a b c : Die × Nat, decide (a.1.value ≤ b.1.value) = true →
        decide (b.1.value ≤ c.1.value) = true → decide (a.1.value ≤ c.1.value) = true := by
      simp only [decide_eq_true_eq, UInt8.le_iff_toNat_le]
      omega
    have total : ∀ a b : Die × Nat,
        (decide (a.1.value ≤ b.1.value) || decide (b.1.value ≤ a.1.value)) = true := by
      simp only [Bool.or_eq_true, decide_eq_true_eq, UInt8.le_iff_toNat_le]
      omega
    have stood : (rolls.zipIdx.filter fun x => x.1.isKept).Pairwise fun a b => a.2 < b.2 := by
      apply List.Pairwise.filter
      rw [← List.pairwise_map, List.zipIdx_map_snd]
      exact List.pairwise_lt_range'
    -- The sort looks at values only, so the order among equals is the one in which they stood.
    have below := List.pairwise_mergeSort trans total (rolls.zipIdx.filter fun x => x.1.isKept)
    have ties := pairwise_mergeSort_ties trans total stood
    rw [List.pairwise_map]
    apply (below.and ties).imp_of_mem
    rintro ⟨a, i⟩ ⟨b, j⟩ first second ⟨least, tie⟩
    refine ⟨a, b, (of_mem_ranking first).1, (of_mem_ranking second).1, ?_⟩
    simp only [decide_eq_true_eq, UInt8.le_iff_toNat_le] at least tie
    simp only [UInt8.lt_iff_toNat_lt, ← UInt8.toNat_inj]
    by_cases same : a.value.toNat = b.value.toNat
    · exact .inr ⟨same, tie (by omega)⟩
    · exact .inl (by omega)

theorem IsOrder.length_eq (ordered : IsOrder rolls order) :
    order.length = rolls.countP Die.isKept := by
  have parts := List.countP_map (p := Die.isKept) (f := Prod.fst) (l := rolls.zipIdx)
  rw [List.zipIdx_map_fst, List.countP_eq_length_filter (l := rolls.zipIdx)] at parts
  rw [ordered.unique (isOrder_ranking rolls), List.length_map, ranking, List.length_mergeSort,
    parts]
  rfl

def keepAt (cause : Modifier) (chosen : List Nat) (rolls : List Die) : List Die :=
  rolls.mapIdx fun i die =>
    if die.isKept = true ∧ i ∉ chosen then { die with droppedBy := some cause } else die

theorem getElem?_keepAt (i : Nat) : (keepAt cause chosen rolls)[i]? = rolls[i]?.map fun die =>
    if die.isKept = true ∧ i ∉ chosen then { die with droppedBy := some cause } else die := by
  rw [keepAt, List.getElem?_mapIdx]

theorem keeps_keepAt_iff (i : Nat) :
    Keeps (keepAt cause chosen rolls) i ↔ Keeps rolls i ∧ i ∈ chosen := by
  simp only [Keeps, getElem?_keepAt, Option.map_eq_some_iff]
  constructor
  · rintro ⟨_, ⟨die, present, rfl⟩, kept⟩
    split at kept
    · cases kept
    · next spared => exact ⟨⟨die, present, kept⟩, by simpa [kept] using spared⟩
  · rintro ⟨⟨die, present, kept⟩, member⟩
    exact ⟨die, ⟨die, present, by simp [member]⟩, kept⟩

theorem before_keepAt {i j : Nat} (first : Before rolls i j) :
    Before (keepAt cause chosen rolls) i j := by
  obtain ⟨a, b, atI, atJ, below⟩ := first
  simp only [Before, getElem?_keepAt, atI, atJ, Option.map_some, Option.some.injEq]
  refine ⟨_, _, rfl, rfl, ?_⟩
  split <;> split <;> exact below

theorem isOrder_keepAt (ordered : IsOrder rolls order) (part : chosen.Sublist order) :
    IsOrder (keepAt cause chosen rolls) chosen where
  kept i := by
    rw [keeps_keepAt_iff]
    exact ⟨fun member => ⟨(ordered.kept i).mp (part.subset member), member⟩, And.right⟩
  sorted := (ordered.sorted.sublist part).imp before_keepAt

theorem dropRanked_eq_keepAt (ordered : IsOrder rolls order) {ranked : List (Die × Nat)}
    (parted : ∀ i, i ∈ ranked.map (·.2) ↔ i ∈ order ∧ i ∉ chosen) :
    dropRanked cause ranked rolls = keepAt cause chosen rolls := by
  refine List.mapIdx_eq_mapIdx_iff.mpr fun i inside => ?_
  have present : rolls[i]? = some rolls[i] := List.getElem?_eq_getElem inside
  have named : (ranked.map (·.2)).contains i = true ↔ rolls[i].isKept = true ∧ i ∉ chosen := by
    rw [List.contains_iff_mem, parted, ordered.kept]
    simp [Keeps, present]
  simp only [named]
  split
  · next spared =>
    have fresh : rolls[i].droppedBy = none := Option.isNone_iff_eq_none.mp spared.1
    simp [Die.drop, fresh]
  · rfl

theorem mem_drop_iff {i : Nat} (distinct : order.Nodup) (count : Nat) :
    i ∈ order.drop count ↔ i ∈ order ∧ i ∉ order.take count := by
  rw [← List.take_append_drop count order, List.nodup_append] at distinct
  constructor
  · intro late
    exact ⟨List.mem_of_mem_drop late, fun early => distinct.2.2 i early i late rfl⟩
  · rintro ⟨member, late⟩
    rw [← List.take_append_drop count order] at member
    exact (List.mem_append.mp member).resolve_left late

theorem mem_take_iff {i : Nat} (distinct : order.Nodup) (count : Nat) :
    i ∈ order.take count ↔ i ∈ order ∧ i ∉ order.drop count := by
  rw [mem_drop_iff distinct]
  constructor
  · intro early
    exact ⟨List.mem_of_mem_take early, fun late => late.2 early⟩
  · rintro ⟨member, early⟩
    exact not_not.mp fun late => early ⟨member, late⟩

namespace Modifier

variable (passes : Nat) (dice : Dice) (faces : Faces) (count : UInt8)

theorem keepLow_eq (ordered : IsOrder rolls order) :
    (keepLow count).applyWithin passes dice rolls faces =
      ⟨keepAt (keepLow count) (order.take count.toNat) rolls, faces, none⟩ := by
  simp only [applyWithin]
  rw [dropRanked_eq_keepAt ordered]
  intro i
  rw [List.map_drop, ← (isOrder_ranking rolls).unique ordered,
    mem_drop_iff (isOrder_ranking rolls).nodup]

theorem keepHigh_eq (ordered : IsOrder rolls order) :
    (keepHigh count).applyWithin passes dice rolls faces =
      ⟨keepAt (keepHigh count) (order.drop (order.length - count.toNat)) rolls, faces, none⟩ := by
  simp only [applyWithin]
  rw [dropRanked_eq_keepAt ordered]
  intro i
  rw [List.map_drop, List.map_reverse, (isOrder_ranking rolls).unique ordered, List.drop_reverse,
    List.mem_reverse, mem_take_iff ordered.nodup]

theorem keeps_high_iff (ordered : IsOrder rolls order) {high low : UInt8}
    (all : high.toNat + low.toNat = order.length) {i : Nat} (kept : Keeps rolls i) :
    Keeps ((keepHigh high).applyWithin passes dice rolls faces).rolls i ↔
      ¬ Keeps ((keepLow low).applyWithin passes dice rolls faces).rolls i := by
  have member := (ordered.kept i).mpr kept
  have rest : order.length - high.toNat = low.toNat := by omega
  rw [keepHigh_eq passes dice faces high ordered, keepLow_eq passes dice faces low ordered, rest]
  simp only [keeps_keepAt_iff, mem_drop_iff ordered.nodup, kept, member, true_and]

theorem keeps_high_high_iff (ordered : IsOrder rolls order) (first second : UInt8) (i : Nat) :
    Keeps ((keepHigh second).applyWithin passes dice
      ((keepHigh first).applyWithin passes dice rolls faces).rolls faces).rolls i ↔
        Keeps ((keepHigh (min first second)).applyWithin passes dice rolls faces).rolls i := by
  have later : IsOrder (keepAt (keepHigh first) _ rolls) _ :=
    isOrder_keepAt ordered (order.drop_sublist (order.length - first.toNat))
  have sizes :
      order.length - first.toNat + (order.length - (order.length - first.toNat) - second.toNat) =
      order.length - min first.toNat second.toNat := by omega
  rw [keepHigh_eq passes dice faces first ordered, keepHigh_eq passes dice faces _ ordered,
    keepHigh_eq passes dice faces second later, List.length_drop, List.drop_drop, sizes,
    UInt8.toNat_min]
  simp only [keeps_keepAt_iff]
  constructor
  · rintro ⟨⟨kept, _⟩, member⟩
    exact ⟨kept, member⟩
  · rintro ⟨kept, member⟩
    exact ⟨⟨kept, List.drop_subset_drop_left _ (by omega) member⟩, member⟩

theorem keeps_low_low_iff (ordered : IsOrder rolls order) (first second : UInt8) (i : Nat) :
    Keeps ((keepLow second).applyWithin passes dice
      ((keepLow first).applyWithin passes dice rolls faces).rolls faces).rolls i ↔
        Keeps ((keepLow (min first second)).applyWithin passes dice rolls faces).rolls i := by
  have later : IsOrder (keepAt (keepLow first) _ rolls) _ :=
    isOrder_keepAt ordered (order.take_sublist first.toNat)
  rw [keepLow_eq passes dice faces first ordered, keepLow_eq passes dice faces _ ordered,
    keepLow_eq passes dice faces second later, List.take_take, Nat.min_comm, UInt8.toNat_min]
  simp only [keeps_keepAt_iff]
  constructor
  · rintro ⟨⟨kept, _⟩, member⟩
    exact ⟨kept, member⟩
  · rintro ⟨kept, member⟩
    exact ⟨⟨kept, List.take_subset_take_left _ (Nat.min_le_left _ _) member⟩, member⟩

end Modifier

/-- The kept dice have an order, by value and then by position, of which a keep modifier keeps a
first or a last part and drops the others, touching nothing else. So the highest and the lowest
share the dice out when they are as many together as there are, and keeping twice keeps the smaller
number. -/
theorem Modifier.keep_selects (passes : Nat) (dice : Dice) (rolls : List Die) (faces : Faces) :
    ∃ order, IsOrder rolls order ∧ order.length = rolls.countP Die.isKept ∧
      (∀ count : UInt8, (keepLow count).applyWithin passes dice rolls faces =
        ⟨keepAt (keepLow count) (order.take (min count.toNat order.length)) rolls, faces, none⟩) ∧
      (∀ count : UInt8, (keepHigh count).applyWithin passes dice rolls faces =
        ⟨keepAt (keepHigh count) (order.drop (order.length - min count.toNat order.length)) rolls,
          faces, none⟩) ∧
      (∀ high low : UInt8, high.toNat + low.toNat = order.length → ∀ i, Keeps rolls i →
        (Keeps ((keepHigh high).applyWithin passes dice rolls faces).rolls i ↔
          ¬ Keeps ((keepLow low).applyWithin passes dice rolls faces).rolls i)) ∧
      (∀ (first second : UInt8) (i : Nat),
        (Keeps ((keepHigh second).applyWithin passes dice
            ((keepHigh first).applyWithin passes dice rolls faces).rolls faces).rolls i ↔
          Keeps ((keepHigh (min first second)).applyWithin passes dice rolls faces).rolls i) ∧
        (Keeps ((keepLow second).applyWithin passes dice
            ((keepLow first).applyWithin passes dice rolls faces).rolls faces).rolls i ↔
          Keeps ((keepLow (min first second)).applyWithin passes dice rolls faces).rolls i)) := by
  have ordered := isOrder_ranking rolls
  refine ⟨_, ordered, ordered.length_eq, fun count => ?_, fun count => ?_, ?_,
    fun first second i => ⟨?_, ?_⟩⟩
  · rw [keepLow_eq passes dice faces count ordered, ← List.take_eq_take_min]
  · have same (k n : Nat) : k - min n k = k - n := by omega
    rw [keepHigh_eq passes dice faces count ordered, same]
  · intro high low all i kept
    exact keeps_high_iff passes dice faces ordered all kept
  · exact keeps_high_high_iff passes dice faces ordered first second i
  · exact keeps_low_low_iff passes dice faces ordered first second i

end Tabletop
