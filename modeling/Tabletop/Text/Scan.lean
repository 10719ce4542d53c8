import Tabletop.Text.Reader

/-!
Scanning a text for what a reader finds in it, from left to right and without overlap. Main fact:
the stretches of a scan, one after the other, spell the text.
-/
namespace Tabletop

/-- A stretch of a scanned text: a character outside every finding, or a finding with its
characters. -/
inductive Stretch (α : Type) where
  | plain (c : Char)
  | hit (value : α) (text : Text)

def Stretch.text : Stretch α → Text
  | plain c => [c]
  | hit _ text => text

structure Occurrence (α : Type) where
  before : Text
  value : α
  text : Text
  after : Text

namespace Reader

def taken (text rest : Text) : Text := text.take (text.length - rest.length)

/-- The stretches of a text; the next `covered` characters belong to a finding already listed. -/
def scanFrom (reader : Reader α) (covered : Nat) : Text → List (Stretch α)
  | [] => []
  | c :: cs => match covered with
    | n + 1 => scanFrom reader n cs
    | 0 => match reader (c :: cs) with
      | some (value, rest) =>
        .hit value (taken (c :: cs) rest) :: scanFrom reader (cs.length - rest.length) cs
      | none => .plain c :: scanFrom reader 0 cs

def scan (reader : Reader α) (text : Text) : List (Stretch α) := scanFrom reader 0 text

def findings (reader : Reader α) (text : Text) : List (α × Text) :=
  (scan reader text).filterMap fun
    | .plain _ => none
    | .hit value text => some (value, text)

def substituted (reader : Reader α) (exchange : α → Text → Text) (text : Text) : Text :=
  (scan reader text).flatMap fun
    | .plain c => [c]
    | .hit value text => exchange value text

def erased (reader : Reader α) (text : Text) : Text := substituted reader (fun _ _ => []) text

def first? (reader : Reader α) : Text → Option (Occurrence α)
  | [] => none
  | c :: cs => match reader (c :: cs) with
    | some (value, rest) => some ⟨[], value, taken (c :: cs) rest, rest⟩
    | none => (first? reader cs).map fun found => { found with before := c :: found.before }

def occursIn (reader : Reader α) (text : Text) : Bool := (first? reader text).isSome

theorem taken_append {text part rest : Text} (split : text = part ++ rest) :
    taken text rest = part := by
  simp [taken, split]

def TakesPart (reader : Reader α) : Prop :=
  ∀ text value rest, reader text = some (value, rest) → ∃ part, part ≠ [] ∧ text = part ++ rest

theorem text_scanFrom {reader : Reader α} (takes : TakesPart reader) (text : Text) (covered : Nat) :
    (scanFrom reader covered text).flatMap Stretch.text = text.drop covered := by
  induction text generalizing covered with
  | nil => simp [scanFrom]
  | cons c cs ih =>
    cases covered with
    | succ n => simpa [scanFrom] using ih n
    | zero =>
      cases found : reader (c :: cs) with
      | none => simp [scanFrom, found, Stretch.text, ih]
      | some result =>
        obtain ⟨value, rest⟩ := result
        obtain ⟨part, nonempty, split⟩ := takes _ _ _ found
        have passed : cs.drop (cs.length - rest.length) = rest := by
          cases part with
          | nil => exact absurd rfl nonempty
          | cons first others => simp [(List.cons.inj split).2]
        simp only [scanFrom, found, List.flatMap_cons, Stretch.text, ih, passed, taken_append split]
        exact split.symm

theorem text_scan {reader : Reader α} (takes : TakesPart reader) (text : Text) :
    (scan reader text).flatMap Stretch.text = text :=
  text_scanFrom takes text 0

end Reader
end Tabletop
