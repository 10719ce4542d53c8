import Tabletop.Formula.Fragments
import Tabletop.Proofs.Trimming

/-! Where a text is parted. `Parts` says which semicolons part it without running the split, the
split finds the one parting that there is, and what is written behind a text only lengthens its last
fragment as long as it has no parting semicolon of its own. -/
namespace Tabletop

theorem startsRoll_eq {piece other : Text}
    (same : Text.trim (piece.takeWhile fun c => c ≠ '#' && c ≠ '[') =
      Text.trim (other.takeWhile fun c => c ≠ '#' && c ≠ '[')) :
    startsRoll piece = startsRoll other := by
  simp only [startsRoll, same]

def opensRoll (text : Text) : Bool := startsRoll (text.takeWhile (· ≠ ';'))

theorem opensRoll_append_semicolon (text rest : Text) :
    opensRoll (text ++ ';' :: rest) = opensRoll text := by
  rw [opensRoll, Text.takeWhile_append_stop (by decide), opensRoll]

theorem opensRoll_append_hash (text rest : Text) :
    opensRoll (text ++ '#' :: rest) = opensRoll text := by
  apply startsRoll_eq
  rw [List.takeWhile_takeWhile, List.takeWhile_takeWhile, Text.takeWhile_append_stop (by decide)]

theorem opensRoll_append_blank {after : Text} (blank : after.allBlank = true) (text : Text) :
    opensRoll (text ++ after) = opensRoll text := by
  apply startsRoll_eq
  rw [List.takeWhile_takeWhile, List.takeWhile_takeWhile, List.takeWhile_append]
  split
  · next whole =>
    rw [(List.takeWhile_prefix _).eq_of_length whole]
    exact Text.trim_append (List.all_eq_true.mpr fun c member =>
      List.all_eq_true.mp blank c ((List.takeWhile_prefix _).subset member))
  · rfl

namespace Text

theorem joined_cons_cons {separator : Char} (first next : Text) (others : List Text) :
    joined [separator] (first :: next :: others) =
      first ++ separator :: joined [separator] (next :: others) := by
  simp [joined, List.intercalate_cons_cons]

theorem joined_ne_nil {separator : Char} {first : Text} (some : first ≠ []) (others : List Text) :
    joined [separator] (first :: others) ≠ [] := by
  cases others with
  | nil => simpa [joined] using some
  | cons next others => simp [joined_cons_cons]

variable {separator : Text}

theorem joined_singleton (text : Text) : joined separator [text] = text := by
  simp [joined]

theorem joined_append {parts others : List Text} (some : parts ≠ []) (more : others ≠ []) :
    joined separator (parts ++ others) =
      joined separator parts ++ (separator ++ joined separator others) := by
  induction parts with
  | nil => contradiction
  | cons part parts ih =>
    cases parts with
    | nil =>
      obtain ⟨next, rest, rfl⟩ := List.exists_cons_of_ne_nil more
      simp [joined, List.intercalate_cons_cons]
    | cons next parts =>
      have later := ih (List.cons_ne_nil next parts)
      simp only [joined, List.cons_append, List.intercalate_cons_cons, List.append_assoc] at later ⊢
      rw [later]

end Text

def Unbroken (fragment : Text) : Prop :=
  ∀ before after, fragment = before ++ ';' :: after → '#' ∈ before ∧ opensRoll after = false

/-- The fragments of a text: none has a parting semicolon inside, and behind a comment only a roll
starts another one. -/
inductive Parts : Text → List Text → Prop where
  | last {fragment : Text} : Unbroken fragment → Parts fragment [fragment]
  | more {fragment rest : Text} {others : List Text} : Unbroken fragment →
      ('#' ∈ fragment → opensRoll rest = true) → Parts rest others →
        Parts (fragment ++ ';' :: rest) (fragment :: others)

theorem head?_splitOn (text : Text) :
    (text.splitOn ';').head? = some (text.takeWhile (· ≠ ';')) := by
  induction text with
  | nil => rfl
  | cons c cs ih =>
    rw [List.splitOn_cons_eq_if_modifyHead]
    by_cases same : c = ';'
    · simp [same]
    · simp [same, ih]

def fragmentsFrom (current text : Text) : List Text :=
  match text.splitOn ';' with
  | [] => []
  | piece :: pieces => gatherFragments (current ++ piece) pieces

theorem fragmentsFrom_nil (current : Text) : fragmentsFrom current [] = [current] := by
  simp [fragmentsFrom, gatherFragments]

theorem fragmentsFrom_cons {c : Char} (other : c ≠ ';') (current text : Text) :
    fragmentsFrom current (c :: text) = fragmentsFrom (current ++ [c]) text := by
  simp only [fragmentsFrom, List.splitOn_cons_eq_if_modifyHead, beq_iff_eq, other, if_false]
  cases text.splitOn ';' with
  | nil => rfl
  | cons piece pieces => simp

theorem fragmentsFrom_semicolon (current text : Text) :
    fragmentsFrom current (';' :: text) =
      if '#' ∈ current ∧ opensRoll text = false then fragmentsFrom (current ++ [';']) text
      else current :: fragmentsFrom [] text := by
  have first := head?_splitOn text
  simp only [fragmentsFrom, List.splitOn_cons_eq_if_modifyHead, beq_self_eq_true, if_true,
    List.append_nil, opensRoll]
  cases pieces : text.splitOn ';' with
  | nil => rw [pieces] at first; contradiction
  | cons piece others =>
    rw [pieces] at first
    cases first
    simp [gatherFragments]

theorem exists_of_append_singleton {text before after : Text} {c d : Char}
    (same : text ++ [c] = before ++ d :: after) :
    (text = before ∧ c = d ∧ after = []) ∨ ∃ inner, after = inner ++ [c] ∧
      text = before ++ d :: inner := by
  rcases List.eq_nil_or_concat after with rfl | ⟨inner, last, rfl⟩
  · obtain ⟨rfl, chars⟩ := List.append_inj' same rfl
    exact .inl ⟨rfl, (List.cons.inj chars).1, rfl⟩
  · obtain ⟨rfl, chars⟩ :=
      List.append_inj' (same.trans (by simp : _ = (before ++ d :: inner) ++ [last])) rfl
    cases chars
    exact .inr ⟨inner, by simp, rfl⟩

theorem parts_fragmentsFrom {current : Text} (text : Text)
    (unbroken : ∀ before after, current = before ++ ';' :: after →
      '#' ∈ before ∧ opensRoll (after ++ text) = false) :
    Parts (current ++ text) (fragmentsFrom current text) := by
  -- The semicolons of `current` were passed over; with what is still to be read, they stay that
  -- way.
  induction text generalizing current with
  | nil =>
    rw [fragmentsFrom_nil, List.append_nil]
    exact .last fun before after same => by simpa using unbroken before after same
  | cons c text ih =>
    by_cases semicolon : c = ';'
    · subst semicolon
      rw [fragmentsFrom_semicolon]
      split
      · next inside =>
        rw [List.append_cons]
        refine ih fun before after same => ?_
        rcases exists_of_append_singleton same with ⟨rfl, _, rfl⟩ | ⟨inner, rfl, rfl⟩
        · exact inside
        · simpa using unbroken before inner rfl
      · next parting =>
        have others : Parts ([] ++ text) (fragmentsFrom [] text) := ih (by simp)
        refine .more (fun before after same => ?_) (fun commented => ?_) others
        · simpa only [opensRoll_append_semicolon] using unbroken before after same
        · exact Bool.of_not_eq_false fun closed => parting ⟨commented, closed⟩
    · rw [fragmentsFrom_cons semicolon, List.append_cons]
      refine ih fun before after same => ?_
      rcases exists_of_append_singleton same with ⟨_, rfl, _⟩ | ⟨inner, rfl, rfl⟩
      · contradiction
      · simpa using unbroken before inner rfl

theorem fragmentsFrom_append {fragment next : Text} (ends : next = [] ∨ ∃ rest, next = ';' :: rest)
    (current : Text) (unbroken : ∀ before after, fragment = before ++ ';' :: after →
      '#' ∈ current ++ before ∧ opensRoll after = false) :
    fragmentsFrom current (fragment ++ next) = fragmentsFrom (current ++ fragment) next := by
  induction fragment generalizing current with
  | nil => simp
  | cons c fragment ih =>
    have step : fragmentsFrom current (c :: (fragment ++ next)) =
        fragmentsFrom (current ++ [c]) (fragment ++ next) := by
      by_cases semicolon : c = ';'
      · subst semicolon
        obtain ⟨commented, opens⟩ := unbroken [] fragment rfl
        have opens : opensRoll (fragment ++ next) = false := by
          rcases ends with rfl | ⟨rest, rfl⟩
          · simpa using opens
          · rw [opensRoll_append_semicolon, opens]
        rw [fragmentsFrom_semicolon, if_pos ⟨by simpa using commented, opens⟩]
      · exact fragmentsFrom_cons semicolon current _
    rw [List.cons_append, step, List.append_cons current c fragment]
    refine ih _ fun before after same => ?_
    have inside := unbroken (c :: before) after (by rw [same]; rfl)
    simpa using inside

theorem Parts.fragments_eq {text : Text} {parts : List Text} (parted : Parts text parts) :
    fragments text = parts := by
  change fragmentsFrom [] text = parts
  induction parted with
  | @last fragment unbroken =>
    have whole := fragmentsFrom_append (.inl rfl) [] (by simpa [Unbroken] using unbroken)
    rw [List.append_nil] at whole
    rw [whole, fragmentsFrom_nil, List.nil_append]
  | @more fragment rest others unbroken opens _ ih =>
    rw [fragmentsFrom_append (.inr ⟨rest, rfl⟩) [] (by simpa [Unbroken] using unbroken),
      List.nil_append, fragmentsFrom_semicolon, if_neg, ih]
    rintro ⟨commented, closed⟩
    rw [opens commented] at closed
    contradiction

/-- The split finds the parting of a text, and there is no other. -/
theorem fragments_eq_iff {text : Text} {parts : List Text} :
    fragments text = parts ↔ Parts text parts := by
  refine ⟨?_, Parts.fragments_eq⟩
  rintro rfl
  have parted : Parts ([] ++ text) (fragmentsFrom [] text) := parts_fragmentsFrom text (by simp)
  exact parted

theorem exists_concat_fragments (text : Text) : ∃ parts last, fragments text = parts ++ [last] := by
  have parted := fragments_eq_iff.mp (rfl : fragments text = fragments text)
  rcases List.eq_nil_or_concat (fragments text) with empty | ⟨parts, last, split⟩
  · rw [empty] at parted
    cases parted
  · exact ⟨parts, last, by rw [split, List.concat_eq_append]⟩

theorem Parts.part_of_mem {text part : Text} {parts : List Text} (parted : Parts text parts)
    (member : part ∈ parts) : part <:+: text := by
  induction parted with
  | last => exact List.mem_singleton.mp member ▸ List.infix_rfl
  | @more fragment rest others _ _ _ ih =>
    rcases List.mem_cons.mp member with rfl | later
    · exact (List.prefix_append _ _).isInfix
    · exact (ih later).trans ⟨fragment ++ [';'], [], by simp⟩

theorem Parts.unbroken {text : Text} {parts : List Text} (parted : Parts text parts) :
    ∀ part ∈ parts, Unbroken part := by
  induction parted with
  | last unbroken =>
    intro part member
    rwa [List.mem_singleton.mp member]
  | more unbroken _ _ ih =>
    intro part member
    rcases List.mem_cons.mp member with rfl | member
    · exact unbroken
    · exact ih part member

theorem Unbroken.append {fragment more : Text} (unbroken : Unbroken fragment)
    (same : ∀ text, opensRoll (text ++ more) = opensRoll text) (inside : Unbroken more) :
    Unbroken (fragment ++ more) := by
  intro before after split
  rcases List.append_eq_append_iff.mp split with ⟨mid, rfl, behind⟩ | ⟨mid, rfl, behind⟩
  · obtain ⟨commented, closed⟩ := inside mid after behind
    exact ⟨List.mem_append_right _ commented, closed⟩
  · cases mid with
    | nil =>
      obtain ⟨commented, _⟩ := inside [] after behind.symm
      contradiction
    | cons c mid =>
      obtain ⟨rfl, rfl⟩ := List.cons.inj behind
      obtain ⟨commented, closed⟩ := unbroken before mid rfl
      exact ⟨commented, (same mid).trans closed⟩

theorem Parts.append {text more last : Text} {parts : List Text}
    (parted : Parts text (parts ++ [last]))
    (same : ∀ text, opensRoll (text ++ more) = opensRoll text) (inside : Unbroken more) :
    Parts (text ++ more) (parts ++ [last ++ more]) := by
  generalize whole : parts ++ [last] = all at parted
  induction parted generalizing parts with
  | last unbroken =>
    obtain ⟨rfl, alone⟩ := List.append_inj' (whole.trans (List.nil_append _).symm) rfl
    cases alone
    exact .last (unbroken.append same inside)
  | @more fragment rest others unbroken opens _ ih =>
    cases parts with
    | nil =>
      obtain ⟨rfl, rfl⟩ := List.cons.inj whole
      contradiction
    | cons first parts =>
      obtain ⟨rfl, rfl⟩ := List.cons.inj whole
      rw [List.append_assoc, List.cons_append]
      exact .more unbroken (fun commented => by rw [same, opens commented]) (ih rfl)

theorem unbroken_of_not_mem {fragment : Text} (whole : ';' ∉ fragment) : Unbroken fragment := by
  rintro before after rfl
  exact absurd (List.mem_append_right _ List.mem_cons_self) whole

theorem unbroken_blank {after : Text} (blank : after.allBlank = true) : Unbroken after :=
  unbroken_of_not_mem fun member => by
    have blank := List.all_eq_true.mp blank _ member
    contradiction

end Tabletop
