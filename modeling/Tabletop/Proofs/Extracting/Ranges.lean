import Tabletop.Proofs.Composing.Fragments

/-! Where fragments stand. Joining the fragments gives the text back, their ranges follow one
another with one semicolon between neighbours, and a fragment is not parted any further. -/
namespace Tabletop

theorem Parts.joined {text : Text} {parts : List Text} (parted : Parts text parts) :
    Text.joined [';'] parts = text := by
  induction parted with
  | last _ => exact Text.joined_singleton _
  | more _ _ others ih => cases others <;> rw [Text.joined_cons_cons, ih]

def StandsAt (text : Text) (range : Nat × Nat) (part : Text) : Prop :=
  ∃ before after : Text, text = before ++ (part ++ after) ∧ range.1 = before.byteLength ∧
    range.2 = before.byteLength + part.byteLength

def Neighbours (text : Text) (range next : Nat × Nat) : Prop :=
  StandsAt text (range.2, next.1) [';'] ∧ next.1 = range.2 + 1

theorem standsAt_byteRanges (part : Text) (parts : List Text) (before : Text) :
    List.Forall₂ (StandsAt (before ++ Text.joined [';'] (part :: parts)))
      (byteRanges before.byteLength (part :: parts)) (part :: parts) := by
  induction parts generalizing part before with
  | nil =>
    rw [Text.joined_singleton]
    exact .cons ⟨before, [], by simp, rfl, rfl⟩ .nil
  | cons next parts ih =>
    have later := ih next (before ++ (part ++ [';']))
    simp only [Text.byteLength_append, Text.byteLength_cons, Text.byteLength_nil, List.append_assoc,
      List.singleton_append] at later
    rw [Text.joined_cons_cons]
    exact .cons ⟨before, ';' :: Text.joined [';'] (next :: parts), rfl, rfl, rfl⟩ later

theorem neighbours_byteRanges (part : Text) (parts : List Text) (before : Text) :
    (byteRanges before.byteLength (part :: parts)).IsChain
      (Neighbours (before ++ Text.joined [';'] (part :: parts))) := by
  induction parts generalizing part before with
  | nil => exact .singleton _
  | cons next parts ih =>
    have later := ih next (before ++ (part ++ [';']))
    simp only [Text.byteLength_append, Text.byteLength_cons, Text.byteLength_nil, List.append_assoc,
      List.singleton_append] at later
    rw [Text.joined_cons_cons]
    refine .cons_cons ⟨⟨before ++ part, Text.joined [';'] (next :: parts), ?_, ?_, ?_⟩, rfl⟩ later
    · rw [List.singleton_append, List.append_assoc]
    · rw [Text.byteLength_append]
    · rw [Text.byteLength_append]
      rfl

theorem byteRanges_ends (part : Text) (parts : List Text) (start : Nat) :
    ∃ ranges last, byteRanges start (part :: parts) = ranges ++ [last] ∧
      last.2 = start + (Text.joined [';'] (part :: parts)).byteLength := by
  induction parts generalizing part start with
  | nil => exact ⟨[], _, rfl, by rw [Text.joined_singleton]⟩
  | cons next parts ih =>
    obtain ⟨ranges, last, split, stop⟩ := ih next (start + part.byteLength + 1)
    refine ⟨(start, start + part.byteLength) :: ranges, last,
      by rw [byteRanges, split, List.cons_append], ?_⟩
    have semicolon : ';'.utf8Size = 1 := rfl
    rw [stop, Text.joined_cons_cons, Text.byteLength_append, Text.byteLength_cons]
    omega

/-- Parting loses nothing and is done once: joined with semicolons the fragments are the text, the
ranges cut them out of it from its first byte to its last, no semicolon of a fragment stands before
its comment, and every fragment is its own only fragment. -/
theorem fragments_lossless (text : Text) :
    fragments text ≠ [] ∧ Text.joined [';'] (fragments text) = text ∧
      List.Forall₂ (StandsAt text) (fragmentRanges text) (fragments text) ∧
      (fragmentRanges text).IsChain (Neighbours text) ∧
      (fragmentRanges text).head?.map (·.1) = some 0 ∧
      (fragmentRanges text).getLast?.map (·.2) = some text.byteLength ∧
      ∀ part ∈ fragments text,
        (∀ before after, part = before ++ ';' :: after → '#' ∈ before) ∧
          fragments part = [part] := by
  have parted : Parts text (fragments text) := fragments_eq_iff.mp rfl
  have whole := parted.joined
  unfold fragmentRanges
  cases split : fragments text with
  | nil =>
    rw [split] at parted
    cases parted
  | cons first others =>
    rw [split] at parted whole
    obtain ⟨ranges, last, ends, stop⟩ := byteRanges_ends first others 0
    have stands := standsAt_byteRanges first others []
    have chain := neighbours_byteRanges first others []
    rw [List.nil_append, whole] at stands chain
    refine ⟨List.cons_ne_nil _ _, whole, stands, chain, rfl, ?_, fun part member => ?_⟩
    · rw [ends, List.getLast?_append, List.getLast?_singleton, Option.some_or, Option.map_some,
        stop, whole, Nat.zero_add]
    · have unbroken := parted.unbroken part member
      exact ⟨fun before after same => (unbroken before after same).1,
        (Parts.last unbroken).fragments_eq⟩

example :
    fragments ['1', '#', 'é', ';', 'a', ';', '2', ';', '&'] =
        [['1', '#', 'é', ';', 'a'], ['2'], ['&']] ∧
      fragmentRanges ['1', '#', 'é', ';', 'a', ';', '2', ';', '&'] = [(0, 6), (7, 8), (9, 10)] := by
  decide +kernel

end Tabletop
