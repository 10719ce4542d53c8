import Tabletop.Proofs.Resolving.Lookup

/-! The stat that a term finds is the best one. The same name comes before names that contain the
term, of which the shortest is best, and these come before names that are alike, of which the most
alike is best; of several that are best the first counts. -/
namespace Tabletop

section FirstBest

variable {Entry Rank : Type} {better : Rank → Rank → Bool} {rank : Entry → Option Rank}
    {entries : List Entry} {entry other : Entry} {best : Rank}

/-- Of the entries with a rank this one is better than those before it, and none behind it is
better. -/
def IsFirstBest (better : Rank → Rank → Bool) (rank : Entry → Option Rank) (entries : List Entry)
    (entry : Entry) (best : Rank) : Prop :=
  ∃ before after, entries = before ++ entry :: after ∧ rank entry = some best ∧
    (∀ other ∈ before, ∀ r, rank other = some r → better best r = true) ∧
      ∀ other ∈ after, ∀ r, rank other = some r → better r best = false

structure IsRanking (better : Rank → Rank → Bool) : Prop where
  trans : ∀ {a b c}, better a b = true → better b c = true → better a c = true
  reach : ∀ {a b c}, better a b = true → better c b = false → better a c = true

namespace IsFirstBest

theorem mem (first : IsFirstBest better rank entries entry best) : entry ∈ entries := by
  obtain ⟨before, after, rfl, _⟩ := first
  simp

theorem single (ranked : rank entry = some best) (unranked : ∀ other ∈ entries, rank other = none) :
    IsFirstBest better rank (entries ++ [entry]) entry best := by
  refine ⟨entries, [], rfl, ranked, fun other member r found => ?_, fun _ member => by cases member⟩
  rw [unranked other member] at found
  cases found

theorem keep (first : IsFirstBest better rank entries entry best)
    (worse : ∀ r, rank other = some r → better r best = false) :
    IsFirstBest better rank (entries ++ [other]) entry best := by
  obtain ⟨before, after, rfl, ranked, earlier, later⟩ := first
  refine ⟨before, after ++ [other], by simp, ranked, earlier, fun next member => ?_⟩
  rcases List.mem_append.mp member with inside | last
  · exact later next inside
  · rw [List.mem_singleton.mp last]
    exact worse

theorem replace (ranking : IsRanking better) {r : Rank}
    (first : IsFirstBest better rank entries entry best)
    (ranked : rank other = some r) (wins : better r best = true) :
    IsFirstBest better rank (entries ++ [other]) other r := by
  obtain ⟨before, after, rfl, own, earlier, later⟩ := first
  refine ⟨_, [], rfl, ranked, fun next member q found => ?_, fun _ member => by cases member⟩
  rcases List.mem_append.mp member with inside | inside
  · exact ranking.trans wins (earlier next inside q found)
  · rcases List.mem_cons.mp inside with rfl | inside
    · rw [own] at found
      cases found
      exact wins
    · exact ranking.reach wins (later next inside q found)

theorem unique {r : Rank} (first : IsFirstBest better rank entries entry best)
    (second : IsFirstBest better rank entries other r) : entry = other := by
  obtain ⟨before, after, rfl, ranked, earlier, later⟩ := first
  obtain ⟨before', after', split, ranked', earlier', later'⟩ := second
  -- If one of them stands behind the other, it is better and it is not.
  rcases List.append_eq_append_iff.mp split with ⟨mid, same, rest⟩ | ⟨mid, same, rest⟩
  · rcases List.cons_eq_append_iff.mp rest with ⟨rfl, rest⟩ | ⟨mid, rfl, behind⟩
    · exact (List.cons.inj rest).1
    · have wins := earlier' entry (by rw [same]; simp) best ranked
      rw [later other (by rw [behind]; simp) r ranked'] at wins
      cases wins
  · rcases List.cons_eq_append_iff.mp rest with ⟨rfl, rest⟩ | ⟨mid, rfl, behind⟩
    · exact (List.cons.inj rest).1.symm
    · have wins := earlier other (by rw [same]; simp) r ranked'
      rw [later' entry (by rw [behind]; simp) best ranked] at wins
      cases wins

end IsFirstBest

theorem find?_concat (p : Entry → Bool) (entries : List Entry) (entry : Entry) :
    (entries ++ [entry]).find? p = entries.find? p ∨ (entries ++ [entry]).find? p = some entry := by
  rw [List.find?_append]
  cases entries.find? p with
  | some first => exact .inl rfl
  | none => cases holds : p entry <;> simp [holds]

theorem firstBest?_concat (better : Rank → Rank → Bool) (rank : Entry → Option Rank)
    (entries : List Entry) (entry : Entry) :
    firstBest? better rank (entries ++ [entry]) = firstBest? better rank entries ∨
      firstBest? better rank (entries ++ [entry]) = some entry := by
  simp only [firstBest?, List.foldl_append, List.foldl_cons, List.foldl_nil]
  split
  · exact .inl rfl
  · exact .inr rfl
  · split
    · exact .inr rfl
    · next chosen _ => exact .inl (by rw [chosen])

structure Chooses (better : Rank → Rank → Bool) (rank : Entry → Option Rank)
    (step : Option (Rank × Entry) → Entry → Option (Rank × Entry)) : Prop where
  unranked : ∀ {entry}, rank entry = none → ∀ chosen, step chosen entry = chosen
  first : ∀ {entry r}, rank entry = some r → step none entry = some (r, entry)
  next : ∀ {entry r}, rank entry = some r → ∀ best,
    step (some best) entry = if better r best.1 then some (r, entry) else some best

theorem Chooses.foldl {step : Option (Rank × Entry) → Entry → Option (Rank × Entry)}
    (chooses : Chooses better rank step) (ranking : IsRanking better) (entries : List Entry) :
    (entries.foldl step none = none ∧ ∀ entry ∈ entries, rank entry = none) ∨
      ∃ entry best, entries.foldl step none = some (best, entry) ∧
        IsFirstBest better rank entries entry best := by
  -- From the end, so that what was chosen before an entry is what the induction speaks of.
  induction entries using List.reverseRecOn with
  | nil => exact .inl ⟨rfl, fun _ member => by cases member⟩
  | append_singleton entries entry ih =>
    rw [List.foldl_append, List.foldl_cons, List.foldl_nil]
    rcases ih with ⟨empty, unranked⟩ | ⟨chosen, best, found, first⟩
    · rw [empty]
      cases ranked : rank entry with
      | none =>
        refine .inl ⟨chooses.unranked ranked _, fun other member => ?_⟩
        rcases List.mem_append.mp member with inside | last
        · exact unranked other inside
        · rw [List.mem_singleton.mp last, ranked]
      | some r => exact .inr ⟨entry, r, chooses.first ranked, .single ranked unranked⟩
    · rw [found]
      right
      cases ranked : rank entry with
      | none =>
        refine ⟨chosen, best, chooses.unranked ranked _, first.keep fun r given => ?_⟩
        rw [ranked] at given
        cases given
      | some r =>
        rw [chooses.next ranked]
        split
        · next wins => exact ⟨entry, r, rfl, first.replace ranking ranked wins⟩
        · next loses =>
          refine ⟨chosen, best, rfl, first.keep fun q given => ?_⟩
          rw [ranked] at given
          cases given
          exact Bool.eq_false_iff.mpr loses

theorem firstBest?_spec (ranking : IsRanking better) (rank : Entry → Option Rank)
    (entries : List Entry) :
    (firstBest? better rank entries = none ∧ ∀ entry ∈ entries, rank entry = none) ∨
      ∃ entry best, firstBest? better rank entries = some entry ∧
        IsFirstBest better rank entries entry best := by
  unfold firstBest?
  dsimp only
  refine (Chooses.foldl ⟨?_, ?_, ?_⟩ ranking entries).elim
    (fun ⟨empty, unranked⟩ => .inl ⟨congrArg _ empty, unranked⟩)
    fun ⟨entry, best, found, first⟩ => .inr ⟨entry, best, congrArg _ found, first⟩
  · intro entry ranked chosen
    simp only [ranked]
  · intro entry r ranked
    simp only [ranked]
  · intro entry r ranked best
    simp only [ranked]

theorem firstBest?_eq_some_iff (ranking : IsRanking better) :
    firstBest? better rank entries = some entry ↔
      ∃ best, IsFirstBest better rank entries entry best := by
  rcases firstBest?_spec ranking rank entries with ⟨empty, unranked⟩ | ⟨chosen, best, found, first⟩
  · rw [empty]
    refine iff_of_false (fun found => by cases found) ?_
    rintro ⟨best, first⟩
    obtain ⟨_, _, _, ranked, _⟩ := id first
    rw [unranked entry first.mem] at ranked
    cases ranked
  · rw [found, Option.some.injEq]
    constructor
    · rintro rfl
      exact ⟨best, first⟩
    · rintro ⟨_, other⟩
      exact first.unique other

theorem firstBest?_eq_none_iff (ranking : IsRanking better) :
    firstBest? better rank entries = none ↔ ∀ entry ∈ entries, rank entry = none := by
  rcases firstBest?_spec ranking rank entries with ⟨empty, unranked⟩ | ⟨chosen, best, found, first⟩
  · exact iff_of_true empty unranked
  · obtain ⟨_, _, _, ranked, _⟩ := id first
    refine iff_of_false (by rw [found]; exact Option.some_ne_none chosen) fun unranked => ?_
    rw [unranked chosen first.mem] at ranked
    cases ranked

variable {p : Entry → Prop} {f : Entry → Rank}

theorem firstBest?_eq_some_iff_of (ranking : IsRanking better)
    (ranks : ∀ entry r, rank entry = some r ↔ p entry ∧ f entry = r) :
    firstBest? better rank entries = some entry ↔
      ∃ before after, entries = before ++ entry :: after ∧ p entry ∧
      (∀ other ∈ before, p other → better (f entry) (f other) = true) ∧
        ∀ other ∈ after, p other → better (f other) (f entry) = false := by
  simp only [firstBest?_eq_some_iff ranking, IsFirstBest, ranks]
  constructor
  · rintro ⟨best, before, after, split, ⟨counts, rfl⟩, earlier, later⟩
    exact ⟨before, after, split, counts,
      fun other member counts => earlier other member _ ⟨counts, rfl⟩,
      fun other member counts => later other member _ ⟨counts, rfl⟩⟩
  · rintro ⟨before, after, split, counts, earlier, later⟩
    refine ⟨f entry, before, after, split, ⟨counts, rfl⟩, ?_, ?_⟩
    · rintro other member _ ⟨counts, rfl⟩
      exact earlier other member counts
    · rintro other member _ ⟨counts, rfl⟩
      exact later other member counts

theorem firstBest?_eq_none_iff_of (ranking : IsRanking better)
    (ranks : ∀ entry r, rank entry = some r ↔ p entry ∧ f entry = r) :
    firstBest? better rank entries = none ↔ ∀ entry ∈ entries, ¬ p entry := by
  simp only [firstBest?_eq_none_iff ranking, Option.eq_none_iff_forall_ne_some, ne_eq, ranks,
    not_and]
  exact ⟨fun unranked entry member counts => unranked entry member _ counts rfl,
    fun unranked entry member _ counts => absurd counts (unranked entry member)⟩

end FirstBest

theorem Text.includes_iff {text part : Text} : text.includes part = true ↔ part <:+: text := by
  induction text with
  | nil =>
    rw [includes, cutAround?, Option.isSome_map, Option.isSome_iff_exists, List.infix_nil]
    simp only [after?_eq_some_iff, List.nil_eq, List.append_eq_nil_iff]
    simp
  | cons c cs ih =>
    rw [List.infix_cons_iff, ← ih, includes, cutAround?]
    cases start : after? part (c :: cs) with
    | none =>
      have apart : ¬ part <+: c :: cs := by
        rintro ⟨rest, same⟩
        rw [after?_eq_some_iff.mpr same.symm] at start
        cases start
      simp [apart, includes]
    | some rest =>
      have first : part <+: c :: cs := ⟨rest, (after?_eq_some_iff.mp start).symm⟩
      simp [first]

namespace StatSheet

variable {sheet : StatSheet} {term : Text} {least : Score} {found : Found}

theorem isRanking_shorter : IsRanking (fun length best : Nat => length < best) where
  trans {a b c} := by simpa using Nat.lt_trans
  reach {a b c} := by simpa using Nat.lt_of_lt_of_le

theorem isRanking_higher : IsRanking (fun score best : Score => best < score) where
  trans {a b c} := by simpa using fun first second => Int.lt_trans second first
  reach {a b c} := by simpa using fun first second => Int.lt_of_le_of_lt second first

def Places (sheet : StatSheet) (name : Text) (value : Amount)
    (before after : List (Text × Amount)) : Prop :=
  sheet.entries = before ++ (name, value) :: after

/-- The stat that a term should find, and how: by the same name, by the shortest name that contains
it, or by the name that is most like it and not less than allowed, always the first of those that
are best. -/
inductive Answers (sheet : StatSheet) (term : Text) (least : Score) : Option Found → Prop where
  | blank : term.normalized = [] → Answers sheet term least none
  | exact {name : Text} {value : Amount} {before after : List (Text × Amount)} :
      term.normalized ≠ [] → sheet.Places name value before after →
      name.normalized = term.normalized →
      (∀ entry ∈ before, entry.1.normalized ≠ term.normalized) →
      Answers sheet term least (some ⟨name, value, .exact⟩)
  | partialName {name : Text} {value : Amount} {before after : List (Text × Amount)} :
      term.normalized ≠ [] → (∀ entry ∈ sheet.entries, entry.1.normalized ≠ term.normalized) →
      sheet.Places name value before after → term.normalized <:+: name.normalized →
      (∀ entry ∈ before, term.normalized <:+: entry.1.normalized →
        name.normalized.length < entry.1.normalized.length) →
      (∀ entry ∈ after, term.normalized <:+: entry.1.normalized →
        name.normalized.length ≤ entry.1.normalized.length) →
      Answers sheet term least (some ⟨name, value, .partialName⟩)
  | similar {name : Text} {value : Amount} {before after : List (Text × Amount)} :
      term.normalized ≠ [] →
      (∀ entry ∈ sheet.entries, ¬ term.normalized <:+: entry.1.normalized) →
      sheet.Places name value before after → least ≤ name.normalized.similarity term.normalized →
      (∀ entry ∈ before, entry.1.normalized.similarity term.normalized <
        name.normalized.similarity term.normalized) →
      (∀ entry ∈ after, entry.1.normalized.similarity term.normalized ≤
        name.normalized.similarity term.normalized) →
      Answers sheet term least (some ⟨name, value, .similar⟩)
  | unknown : term.normalized ≠ [] →
      (∀ entry ∈ sheet.entries, ¬ term.normalized <:+: entry.1.normalized) →
      (∀ entry ∈ sheet.entries, entry.1.normalized.similarity term.normalized < least) →
      Answers sheet term least none

theorem map_found_eq_some_iff {chosen : Option (Text × Amount)} {tier : Tier} :
    (chosen.map fun entry => Found.mk entry.1 entry.2 tier) = some found ↔
      found.tier = tier ∧ chosen = some (found.name, found.value) := by
  rw [Option.map_eq_some_iff]
  constructor
  · rintro ⟨entry, rfl, rfl⟩
    exact ⟨rfl, rfl⟩
  · rintro ⟨rfl, rfl⟩
    exact ⟨_, rfl, rfl⟩

theorem named?_eq_some_iff : sheet.named? term = some found ↔ found.tier = .exact ∧ ∃ before after,
    sheet.Places found.name found.value before after ∧ found.name.normalized = term ∧
      ∀ entry ∈ before, entry.1.normalized ≠ term := by
  refine map_found_eq_some_iff.trans (and_congr_right fun _ => ?_)
  simp only [List.find?_eq_some_iff_append, decide_eq_true_eq, Bool.not_eq_true',
    decide_eq_false_iff_not]
  constructor
  · rintro ⟨same, before, after, place, earlier⟩
    exact ⟨before, after, place, same, earlier⟩
  · rintro ⟨before, after, place, same, earlier⟩
    exact ⟨same, before, after, place, earlier⟩

theorem named?_eq_none_iff :
    sheet.named? term = none ↔ ∀ entry ∈ sheet.entries, entry.1.normalized ≠ term := by
  simp [named?]

theorem containing?_ranks (entry : Text × Amount) (length : Nat) :
    (if entry.1.normalized.includes term then some entry.1.normalized.length else none) =
      some length ↔ term <:+: entry.1.normalized ∧ entry.1.normalized.length = length := by
  rw [Option.ite_none_right_eq_some, Text.includes_iff, Option.some.injEq]

theorem containing?_eq_some_iff :
    sheet.containing? term = some found ↔ found.tier = .partialName ∧ ∃ before after,
      sheet.Places found.name found.value before after ∧ term <:+: found.name.normalized ∧
      (∀ entry ∈ before, term <:+: entry.1.normalized →
        found.name.normalized.length < entry.1.normalized.length) ∧
      ∀ entry ∈ after, term <:+: entry.1.normalized →
        found.name.normalized.length ≤ entry.1.normalized.length := by
  refine map_found_eq_some_iff.trans (and_congr_right fun _ => ?_)
  rw [firstBest?_eq_some_iff_of isRanking_shorter containing?_ranks]
  simp only [decide_eq_true_eq, decide_eq_false_iff_not, Nat.not_lt]
  rfl

theorem containing?_eq_none_iff :
    sheet.containing? term = none ↔ ∀ entry ∈ sheet.entries, ¬ term <:+: entry.1.normalized :=
  Option.map_eq_none_iff.trans (firstBest?_eq_none_iff_of isRanking_shorter containing?_ranks)

theorem alike?_ranks (entry : Text × Amount) (score : Score) :
    (if entry.1.normalized.similarity term < least then none
      else some (entry.1.normalized.similarity term)) =
      some score ↔ least ≤ entry.1.normalized.similarity term ∧
        entry.1.normalized.similarity term = score := by
  rw [Option.ite_none_left_eq_some, Int.not_lt, Option.some.injEq]

theorem alike?_eq_some_iff :
    sheet.alike? term least = some found ↔ found.tier = .similar ∧ ∃ before after,
      sheet.Places found.name found.value before after ∧
      least ≤ found.name.normalized.similarity term ∧
      (∀ entry ∈ before, entry.1.normalized.similarity term <
        found.name.normalized.similarity term) ∧
      ∀ entry ∈ after, entry.1.normalized.similarity term ≤
        found.name.normalized.similarity term := by
  refine map_found_eq_some_iff.trans (and_congr_right fun _ => ?_)
  rw [firstBest?_eq_some_iff_of isRanking_higher alike?_ranks]
  simp only [decide_eq_true_eq, decide_eq_false_iff_not, Int.not_lt]
  -- What is not alike enough is less alike than what is.
  refine exists_congr fun before => exists_congr fun after => and_congr_right fun _ =>
    and_congr_right fun enough => ?_
  refine and_congr (forall₂_congr fun entry _ => ?_) (forall₂_congr fun entry _ => ?_)
  · exact ⟨fun less => (Int.lt_or_le _ least).elim (fun low => Int.lt_of_lt_of_le low enough) less,
      fun less _ => less⟩
  · refine ⟨fun less => ?_, fun less _ => less⟩
    exact (Int.lt_or_le _ least).elim (fun low => Int.le_of_lt (Int.lt_of_lt_of_le low enough)) less

theorem alike?_eq_none_iff :
    sheet.alike? term least = none ↔
      ∀ entry ∈ sheet.entries, entry.1.normalized.similarity term < least := by
  refine Option.map_eq_none_iff.trans
    ((firstBest?_eq_none_iff_of isRanking_higher alike?_ranks).trans ?_)
  simp only [Int.not_le]

theorem find?_eq (sheet : StatSheet) (term : Text) (least : Score) :
    sheet.find? term least = if term.normalized = [] then none else
      (sheet.named? term.normalized).or
        ((sheet.containing? term.normalized).or (sheet.alike? term.normalized least)) := by
  simp only [find?, List.isEmpty_iff, Option.orElse_eq_orElse, Option.orElse_eq_or]

theorem unnamed_of_uncontained
    (uncontained : ∀ entry ∈ sheet.entries, ¬ term <:+: entry.1.normalized) :
    sheet.named? term = none :=
  named?_eq_none_iff.mpr fun entry member same =>
    uncontained entry member (same ▸ List.infix_refl _)

theorem find?_eq_iff {answer : Option Found} :
    sheet.find? term least = answer ↔ sheet.Answers term least answer := by
  rw [find?_eq]
  constructor
  · rintro rfl
    split
    · next blank => exact .blank blank
    · next given =>
      cases named : sheet.named? term.normalized with
      | some found =>
        obtain ⟨tier, before, after, place, same, earlier⟩ := named?_eq_some_iff.mp named
        cases found
        cases tier
        exact .exact given place same earlier
      | none =>
        cases containing : sheet.containing? term.normalized with
        | some found =>
          obtain ⟨tier, before, after, place, inside, earlier, later⟩ :=
            containing?_eq_some_iff.mp containing
          cases found
          cases tier
          exact .partialName given (named?_eq_none_iff.mp named) place inside earlier later
        | none =>
          cases alike : sheet.alike? term.normalized least with
          | some found =>
            obtain ⟨tier, before, after, place, enough, earlier, later⟩ :=
              alike?_eq_some_iff.mp alike
            cases found
            cases tier
            exact .similar given (containing?_eq_none_iff.mp containing) place enough earlier later
          | none =>
            exact .unknown given (containing?_eq_none_iff.mp containing)
              (alike?_eq_none_iff.mp alike)
  · intro answers
    cases answers with
    | blank blank => rw [if_pos blank]
    | exact given place same earlier =>
      have named : sheet.named? term.normalized = some ⟨_, _, .exact⟩ :=
        named?_eq_some_iff.mpr ⟨rfl, _, _, place, same, earlier⟩
      rw [if_neg given, named, Option.some_or]
    | partialName given unnamed place inside earlier later =>
      have containing : sheet.containing? term.normalized = some ⟨_, _, .partialName⟩ :=
        containing?_eq_some_iff.mpr ⟨rfl, _, _, place, inside, earlier, later⟩
      rw [if_neg given, named?_eq_none_iff.mpr unnamed, containing, Option.none_or, Option.some_or]
    | similar given uncontained place enough earlier later =>
      have alike : sheet.alike? term.normalized least = some ⟨_, _, .similar⟩ :=
        alike?_eq_some_iff.mpr ⟨rfl, _, _, place, enough, earlier, later⟩
      rw [if_neg given, unnamed_of_uncontained uncontained, containing?_eq_none_iff.mpr uncontained,
        alike, Option.none_or, Option.none_or]
    | unknown given uncontained unlike =>
      rw [if_neg given, unnamed_of_uncontained uncontained, containing?_eq_none_iff.mpr uncontained,
        alike?_eq_none_iff.mpr unlike, Option.none_or, Option.none_or]

def OldOrNew (name : Text) (value : Amount) (old new : Option Found) : Prop :=
  new = old ∨ ∃ tier, new = some ⟨name, value, tier⟩

variable {name : Text} {value : Amount}

theorem OldOrNew.or {old old' new new' : Option Found} (first : OldOrNew name value old new)
    (second : OldOrNew name value old' new') : OldOrNew name value (old.or old') (new.or new') := by
  rcases first with rfl | ⟨tier, rfl⟩
  · rcases second with rfl | ⟨tier, rfl⟩
    · exact .inl rfl
    · cases new with
      | none => exact .inr ⟨tier, rfl⟩
      | some found => exact .inl rfl
  · exact .inr ⟨tier, rfl⟩

theorem OldOrNew.of_entry {old new : Option (Text × Amount)} (tier : Tier)
    (entry : new = old ∨ new = some (name, value)) :
    OldOrNew name value (old.map fun entry => ⟨entry.1, entry.2, tier⟩)
      (new.map fun entry => ⟨entry.1, entry.2, tier⟩) := by
  rcases entry with rfl | rfl
  · exact .inl rfl
  · exact .inr ⟨tier, rfl⟩

theorem entries_insert (unknown : name ∉ sheet.entries.map (·.1)) (value : Amount) :
    (sheet.insert name value).entries = sheet.entries ++ [(name, value)] := by
  rw [insert, dif_neg unknown]

theorem oldOrNew_find? (unknown : name ∉ sheet.entries.map (·.1)) (value : Amount) (term : Text)
    (least : Score) :
    OldOrNew name value (sheet.find? term least) ((sheet.insert name value).find? term least) := by
  rw [find?_eq, find?_eq]
  split
  · exact .inl rfl
  · refine .or (.of_entry _ ?_) (.or (.of_entry _ ?_) (.of_entry _ ?_))
    · rw [entries_insert unknown]
      exact find?_concat ..
    · rw [entries_insert unknown]
      exact firstBest?_concat ..
    · rw [entries_insert unknown]
      exact firstBest?_concat ..

/-- A term finds the best of the stats, and a stat that is added changes this only if it is the one
that is found. -/
theorem find?_optimum (sheet : StatSheet) (term : Text) (least : Score) :
    (∀ answer, sheet.find? term least = answer ↔ sheet.Answers term least answer) ∧
      ∀ name value, name ∉ sheet.entries.map (·.1) →
        OldOrNew name value (sheet.find? term least) ((sheet.insert name value).find? term least) :=
  ⟨fun _ => find?_eq_iff, fun _ value unknown => oldOrNew_find? unknown value term least⟩

end StatSheet

end Tabletop
