import Tabletop.Proofs.Composing.Commented
import Tabletop.Proofs.Composing.Segments

/-! Chains are read back as they were composed, when no comment holds what composing reads. The
rolls of the fragments are joined to one text, and that text is parted into the same rolls exactly
when every roll behind a commented one is still told from a comment. -/
namespace Tabletop

namespace Text

theorem trim_joined {texts : List Text} (trimmed : ∀ text ∈ texts, text.trim = text) :
    (joined [';'] texts).trim = joined [';'] texts := by
  rw [trim_eq_self_iff]
  induction texts with
  | nil => exact ⟨rfl, rfl⟩
  | cons first others ih =>
    obtain ⟨start, stop⟩ := trim_eq_self_iff.mp (trimmed first List.mem_cons_self)
    cases others with
    | nil =>
      rw [joined_singleton]
      exact ⟨start, stop⟩
    | cons next others =>
      obtain ⟨_, ends⟩ := ih fun text member => trimmed text (List.mem_cons_of_mem first member)
      rw [joined_cons_cons, trimStart_append_visible (by decide),
        trimEnd_append_visible (by decide), start, ends]
      exact ⟨rfl, rfl⟩

end Text

def Parting (texts : List Text) : Prop :=
  texts.IsChain fun text next => '#' ∈ text → opensRoll next = true

instance (texts : List Text) : Decidable (Parting texts) :=
  inferInstanceAs (Decidable (texts.IsChain fun text next => '#' ∈ text → opensRoll next = true))

theorem opensRoll_joined (text : Text) (texts : List Text) :
    opensRoll (Text.joined [';'] (text :: texts)) = opensRoll text := by
  cases texts with
  | nil => rw [Text.joined_singleton]
  | cons next others => rw [Text.joined_cons_cons, opensRoll_append_semicolon]

theorem parts_joined_iff {text : Text} {texts : List Text}
    (unbroken : ∀ part ∈ text :: texts, Unbroken part) :
    Parts (Text.joined [';'] (text :: texts)) (text :: texts) ↔ Parting (text :: texts) := by
  induction texts generalizing text with
  | nil =>
    rw [Text.joined_singleton]
    exact ⟨fun _ => .singleton text, fun _ => .last (unbroken text List.mem_cons_self)⟩
  | cons next others ih =>
    have later := ih fun part member => unbroken part (List.mem_cons_of_mem text member)
    rw [Text.joined_cons_cons, Parting, List.isChain_cons_cons, ← Parting, ← later,
      ← opensRoll_joined next others]
    constructor
    -- The first semicolon that parts is the one that was written, so the rest is the rest.
    · generalize whole : text ++ ';' :: Text.joined [';'] (next :: others) = joined
      rintro (_ | ⟨_, opens, parted⟩)
      obtain rfl := (List.cons.inj (List.append_cancel_left whole)).2
      exact ⟨opens, parted⟩
    · rintro ⟨opens, parted⟩
      exact .more (unbroken text List.mem_cons_self) opens parted

variable {resolver : Resolver} {statTotal : Option Text}

theorem trim_chainRoll (fragment : Text) :
    (chainRoll resolver statTotal fragment).trim = chainRoll resolver statTotal fragment := by
  rw [chainRoll_eq]
  dsimp only
  generalize Comparator.extract (CriticalBlock.strip fragment) = parts
  generalize written : (if parts.2.isEmpty then [] else
    evaluateComparator .arithmetic (resolvePart resolver statTotal parts.2)) = comparator
  have start : Text.trimStart comparator = comparator := by
    split at written
    · rw [← written]
      rfl
    · rw [← written]
      exact (Text.trim_eq_self_iff.mp (trim_evaluateComparator _ _)).1
  -- What the roll starts with is the body or, if that is empty, the comparator; neither starts with
  -- a blank.
  rw [Text.trim_trimEnd]
  by_cases empty : (resolvePart resolver statTotal parts.1).trim = []
  · rw [empty, List.nil_append, Text.trim, start]
  · obtain ⟨c, cs, body, visible⟩ := (Text.trimmed_trim empty).head
    rw [body, List.cons_append, Text.trim, Text.trimStart_cons visible]

def chainRolls (resolver : Resolver) (statTotal : Option Text) (formula : Text) : List Text :=
  (fragments formula).map (chainRoll resolver statTotal)

theorem composeChain_eq (resolver : Resolver) (statTotal : Option Text) (formula : Text) :
    composeChain resolver statTotal [] formula =
        Text.joined [';'] (chainRolls resolver statTotal formula) ∧
      (composeChain resolver statTotal [] formula).trim =
        composeChain resolver statTotal [] formula := by
  have trimmed : ∀ text ∈ chainRolls resolver statTotal formula, text.trim = text := by
    intro text member
    obtain ⟨fragment, _, rfl⟩ := List.mem_map.mp member
    exact trim_chainRoll fragment
  have joined := Text.trim_joined trimmed
  have same : composeChain resolver statTotal [] formula =
      Text.joined [';'] (chainRolls resolver statTotal formula) :=
    (Text.trimEnd_append (by decide)).trans (Text.trim_eq_self_iff.mp joined).2
  rw [same]
  exact ⟨rfl, joined⟩

/-- The comments of the fragments are such that composing leaves them where they are. -/
def SparedChain (formula : Text) : Prop :=
  ∀ fragment ∈ fragments formula, ∀ body comment, Text.cutAt? '#' fragment = some (body, comment) →
    Spared body comment

instance (formula : Text) : Decidable (SparedChain formula) :=
  decidable_of_iff
    (∀ fragment ∈ fragments formula, ∀ cut ∈ Text.cutAt? '#' fragment, Spared cut.1 cut.2)
    ⟨fun spared fragment member body comment cut => spared fragment member (body, comment) cut,
      fun spared fragment member cut found => spared fragment member cut.1 cut.2 found⟩

section

variable {formula fragment : Text}

theorem chainRoll_spec (plain : resolver.overrides = [])
    (total : ∀ text, statTotal = some text → '#' ∉ text ∧ ';' ∉ text) (unbroken : Unbroken fragment)
    (spared : ∀ body comment, Text.cutAt? '#' fragment = some (body, comment) →
      Spared body comment) : Unbroken (chainRoll resolver statTotal fragment) ∧
      Engine.written? (chainRoll resolver statTotal fragment) = Engine.written? fragment := by
  have hashes := fun text filled => (total text filled).1
  have semicolons := fun text filled => (total text filled).2
  cases cut : Text.cutAt? '#' fragment with
  | none =>
    have hashless := Text.cutAt?_eq_none_iff.mp cut
    have whole : ';' ∉ fragment := by
      intro member
      obtain ⟨before, after, rfl⟩ := List.append_of_mem member
      exact hashless (List.mem_append_left _ (unbroken before after rfl).1)
    refine
      ⟨unbroken_of_not_mem (not_mem_chainRoll plain (by decide) (by decide) semicolons whole), ?_⟩
    rw [Engine.written?_of_not_mem hashless,
      Engine.written?_of_not_mem (not_mem_chainRoll plain (by decide) (by decide) hashes hashless)]
  | some found =>
    obtain ⟨body, comment⟩ := found
    obtain ⟨rfl, hashless⟩ := Text.eq_of_cutAt? cut
    have whole : ';' ∉ body := by
      intro member
      obtain ⟨before, after, rfl⟩ := List.append_of_mem member
      have commented := (unbroken before (after ++ '#' :: comment) (by simp)).1
      exact hashless (List.mem_append_left _ commented)
    have inert : Inert comment := by
      rintro before after rfl
      exact (unbroken (body ++ '#' :: before) after (by simp)).2
    obtain ⟨front, rolled, kept⟩ :=
      exists_chainRoll_commented statTotal plain whole (spared body comment cut)
    have fronted := kept '#' (by decide) (by decide) hashes hashless
    have start := unbroken_of_not_mem (kept ';' (by decide) (by decide) semicolons whole)
    rw [rolled, Engine.written?_append hashless, Engine.written?_append fronted, Text.trim_trimEnd]
    have commented := unbroken_comment inert.trimEnd
    exact ⟨start.append (fun text => opensRoll_append_hash text _) commented, rfl⟩

/-- A composed chain is parted into the rolls of its fragments exactly when these part, and then a
run of it gives one segment for each of them that is not blank. The comments are those of the
fragments. -/
theorem Engine.roll_chain (plain : resolver.overrides = [])
    (total : ∀ text, statTotal = some text → '#' ∉ text ∧ ';' ∉ text)
    (spared : SparedChain formula) :
    (fragments (composeChain resolver statTotal [] formula) =
        chainRolls resolver statTotal formula ↔ Parting (chainRolls resolver statTotal formula)) ∧
      (∀ fragment ∈ fragments formula,
        written? (chainRoll resolver statTotal fragment) = written? fragment) ∧
      (Parting (chainRolls resolver statTotal formula) → ∀ {limit faces outcome rest},
        (roll limit (composeChain resolver statTotal [] formula)).run faces = (.ok outcome, rest) →
          ∃ earlier last, chainRolls resolver statTotal formula = earlier ++ [last] ∧
            outcome.comment = written? last ∧
            RolledFrom none ((earlier ++ [last.takeWhile (· ≠ '#')]).filter fun part =>
              !part.allBlank) outcome.segments) := by
  have parted := fragments_eq_iff.mp (rfl : fragments formula = fragments formula)
  have spec (fragment : Text) (member : fragment ∈ fragments formula) :
      Unbroken (chainRoll resolver statTotal fragment) ∧
        written? (chainRoll resolver statTotal fragment) = written? fragment :=
    chainRoll_spec plain total (parted.unbroken fragment member) (spared fragment member)
  have unbroken : ∀ roll ∈ chainRolls resolver statTotal formula, Unbroken roll := by
    intro roll member
    obtain ⟨fragment, listed, rfl⟩ := List.mem_map.mp member
    exact (spec fragment listed).1
  obtain ⟨earlier, last, shape⟩ :
      ∃ earlier last, chainRolls resolver statTotal formula = earlier ++ [last] := by
    obtain ⟨parts, ending, split⟩ := exists_concat_fragments formula
    exact ⟨_, _, by rw [chainRolls, split, List.map_append, List.map_singleton]⟩
  obtain ⟨joined, trimmed⟩ := composeChain_eq resolver statTotal formula
  have exact : fragments (composeChain resolver statTotal [] formula) =
      chainRolls resolver statTotal formula ↔ Parting (chainRolls resolver statTotal formula) := by
    rw [fragments_eq_iff, joined]
    cases some : chainRolls resolver statTotal formula with
    | nil => simp [some] at shape
    | cons first others => exact parts_joined_iff (some ▸ unbroken)
  refine ⟨exact, fun fragment member => (spec fragment member).2,
    fun parting limit faces outcome rest done => ?_⟩
  obtain ⟨rolled, _, commented⟩ := rolledFrom_of_roll done
  rw [trimmed, splitGlobalComment_eq ((exact.mpr parting).trans shape)] at rolled commented
  exact ⟨earlier, last, shape, commented, rolled⟩

end

def bare : Resolver := { sheet := .ofList [] }

def torn : Text :=
  ['1', 'd', '2', '0', '>', '=', '1', '0', ' ', '#', ' ', 'h', 'i', 't', ';', ' ', 'r', 'u', 'n',
    ';', '1', 'd', '6']

def aimed : Text :=
  ['2', 'd', '6', ' ', '#', ' ', 'a', 'i', 'm', ';', ' ', 'f', 'i', 'r', 'e', ';', '1', 'd', '2',
    '0', '>', '=', '$', ' ', '#', ' ', 'h', 'i', 't', ';', '&', '+', '1']

theorem Engine.roll_chain_aimed :
    SparedChain aimed ∧
      chainRolls bare (some ['4']) aimed =
        [['2', 'd', '6', ' ', '#', ' ', 'a', 'i', 'm', ';', ' ', 'f', 'i', 'r', 'e'],
        ['1', 'd', '2', '0', '>', '=', '4', ' ', '#', ' ', 'h', 'i', 't'], ['&', '+', '1']] ∧
      fragments (composeChain bare (some ['4']) [] aimed) = chainRolls bare (some ['4']) aimed ∧
      ∃ outcome rest,
        (roll none (composeChain bare (some ['4']) [] aimed)).run (.queue [1, 2, 3]) =
          (.ok outcome, rest) ∧
        ∃ earlier last, chainRolls bare (some ['4']) aimed = earlier ++ [last] ∧
        outcome.comment = written? last ∧
        RolledFrom none ((earlier ++ [last.takeWhile (· ≠ '#')]).filter fun part => !part.allBlank)
            outcome.segments := by
  have spared : SparedChain aimed := by decide +kernel
  have parting : Parting (chainRolls bare (some ['4']) aimed) := by decide +kernel
  have total : ∀ text, some ['4'] = some text → '#' ∉ text ∧ ';' ∉ text := by
    rintro _ ⟨⟩
    decide
  obtain ⟨exact, _, runs⟩ := Engine.roll_chain (rfl : bare.overrides = []) total spared
  have rolled : ((roll none (composeChain bare (some ['4']) [] aimed)).run
      (.queue [1, 2, 3])).1.toOption.isSome = true := by decide +kernel
  refine ⟨spared, by decide +kernel, exact.mpr parting, ?_⟩
  rcases ran : (roll none (composeChain bare (some ['4']) [] aimed)).run (.queue [1, 2, 3]) with
    ⟨_ | outcome, rest⟩
  · rw [ran] at rolled
    cases rolled
  · exact ⟨outcome, rest, rfl, runs parting ran⟩

/-- Behind a comparator, a semicolon of the comment is written before the comment, where it parts
the chain. -/
theorem composeChain_torn :
    fragments torn = [['1', 'd', '2', '0', '>', '=', '1', '0', ' ', '#', ' ', 'h', 'i', 't', ';',
      ' ', 'r', 'u', 'n'], ['1', 'd', '6']] ∧
      fragments (composeChain bare none [] torn) ≠ chainRolls bare none torn := by
  decide +kernel

end Tabletop
