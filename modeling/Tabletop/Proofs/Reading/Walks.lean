import Tabletop.Expr.Diagnosis
import Tabletop.Proofs.Reading.Blanks

/-! Where the rules of the notation look. What a rule passes over is readable, so everything before
a place that it complains about is, and the complaint is about a character, about digits or about
the end. -/
namespace Tabletop

variable {text start rest : Text}

def isReadable (c : Char) : Bool := c.toNat < 128 || isBlank c

theorem isReadable_of_isDigit {c : Char} (digit : c.isDigit = true) : isReadable c = true := by
  have upper : c.toNat ≤ '9'.toNat := (Char.isDigit_iff_toNat.mp digit).2
  have small : '9'.toNat < 128 := by decide
  simp [isReadable, show c.toNat < 128 by omega]

/-- The rest ends the text, and all that stands before it is readable. -/
def ReadTo (text rest : Text) : Prop :=
  ∃ before, text = before ++ rest ∧ ∀ c ∈ before, isReadable c = true

theorem ReadTo.append (reached : ReadTo text (start ++ rest))
    (readable : ∀ c ∈ start, isReadable c = true) : ReadTo text rest := by
  obtain ⟨before, rfl, known⟩ := reached
  exact ⟨before ++ start, by simp, List.forall_mem_append.mpr ⟨known, readable⟩⟩

def Finding.Within (text : Text) : Finding → Prop
  | missing rest _ => ReadTo text rest
  | outOfRange _ start rest | several start rest =>
    ReadTo text start ∧ ∃ digits, start = digits ++ rest ∧ ∀ c ∈ digits, c.isDigit = true

theorem Finding.Within.note {finding : Finding} (within : finding.Within text)
    (reached : ReadTo text rest) (item : Expected) : (finding.note item rest).Within text := by
  unfold Finding.note
  split
  · exact reached
  · split
    · exact within
    · cases finding <;> exact within

namespace Walk

/-- From a place that is reached the walk goes to another one or nowhere, and all that it finds is
at such places. -/
def Stays (text : Text) (walk : Walk) : Prop :=
  ∀ start finding, ReadTo text start → finding.Within text →
    (∀ rest ∈ (walk start finding).1, ReadTo text rest) ∧ (walk start finding).2.Within text

variable {walk : Walk}

theorem stays_char {c : Char} (ascii : c.toNat < 128) : (char c).Stays text := by
  intro start finding reached within
  unfold char
  split
  · next d rest =>
    split
    · next same =>
      refine ⟨fun _ next => ?_, within⟩
      cases next
      have reached : ReadTo text ([d] ++ rest) := reached
      exact reached.append (by simp [isReadable, same, ascii])
    · exact ⟨fun _ next => (by cases next), within.note reached _⟩
  · exact ⟨fun _ next => (by cases next), within.note reached _⟩

theorem stays_number (name : Option Text) (limit : Nat) : (number name limit).Stays text := by
  intro start finding reached within
  unfold number
  cases reads : Reader.digits start with
  | none => exact ⟨fun _ next => (by cases next), within.note reached _⟩
  | some reading =>
    obtain ⟨digits, rest⟩ := reading
    obtain ⟨numeral, rfl⟩ := Reader.digits_sound reads
    have behind := reached.append fun c member => isReadable_of_isDigit (numeral.isDigit c member)
    dsimp only
    split
    · exact ⟨fun _ next => by cases next; exact behind, within⟩
    · split
      · exact ⟨fun _ next => by cases next; exact behind, behind⟩
      · exact ⟨fun _ next => (by cases next), reached, digits, rfl, numeral.isDigit⟩

theorem Stays.repeated (stays : walk.Stays text) (bound : Nat) :
    (repeated walk bound).Stays text := by
  induction bound with
  | zero =>
    exact fun start finding reached within => ⟨fun _ next => by cases next; exact reached, within⟩
  | succ bound ih =>
    intro start finding reached within
    obtain ⟨goes, found⟩ := stays start finding reached within
    unfold Walk.repeated
    split
    · next rest later step =>
      rw [step] at goes found
      exact ih rest later (goes rest rfl) found
    · next later step =>
      rw [step] at found
      exact ⟨fun _ next => by cases next; exact reached, found⟩

end Walk

def Rule.isAscii : Rule → Bool
  | .char c => c.toNat < 128
  | .number _ _ | .blanks | .finish | .inner => true
  | .seq first second | .choice first second => first.isAscii && second.isAscii
  | .optional rule | .many rule => rule.isAscii

theorem Rule.expression_isAscii : Rule.expression.isAscii = true := by decide

theorem Rule.dice_isAscii : (Rule.padded .dice).isAscii = true := by decide

namespace Walk

variable {walk : Walk} {rule : Rule}

theorem Stays.ofRule (stays : walk.Stays text) (ascii : rule.isAscii = true) :
    (ofRule walk rule).Stays text := by
  induction rule with
  | char c => exact stays_char (by simpa [Rule.isAscii] using ascii)
  | number name limit => exact stays_number name limit
  | blanks =>
    intro start finding reached within
    refine ⟨fun _ next => ?_, within⟩
    cases next
    obtain ⟨before, blank, split⟩ := start.exists_blank_append
    rw [split] at reached
    refine reached.append fun c member => ?_
    simp [isReadable, List.all_eq_true.mp blank c member]
  | finish =>
    intro start finding reached within
    unfold Walk.ofRule
    split
    · next ended =>
      rw [List.isEmpty_iff.mp ended] at reached
      exact ⟨fun _ next => by cases next; exact reached, within⟩
    · exact ⟨fun _ next => (by cases next), within.note reached _⟩
  | inner => exact stays
  | seq first second ih ih' =>
    obtain ⟨ascii, ascii'⟩ := Bool.and_eq_true_iff.mp ascii
    intro start finding reached within
    obtain ⟨goes, found⟩ := ih ascii start finding reached within
    unfold Walk.ofRule
    split
    · next rest later step =>
      rw [step] at goes found
      exact ih' ascii' rest later (goes rest rfl) found
    · next later step =>
      rw [step] at found
      exact ⟨fun _ next => (by cases next), found⟩
  | choice first second ih ih' =>
    obtain ⟨ascii, ascii'⟩ := Bool.and_eq_true_iff.mp ascii
    intro start finding reached within
    obtain ⟨goes, found⟩ := ih ascii start finding reached within
    unfold Walk.ofRule
    split
    · next rest later step =>
      rw [step] at goes found
      exact ⟨goes, found⟩
    · next later step =>
      rw [step] at found
      exact ih' ascii' start later reached found
  | optional rule ih =>
    intro start finding reached within
    obtain ⟨goes, found⟩ := ih ascii start finding reached within
    unfold Walk.ofRule
    split
    · next rest later step =>
      rw [step] at goes found
      exact ⟨goes, found⟩
    · next later step =>
      rw [step] at found
      exact ⟨fun _ next => by cases next; exact reached, found⟩
  | many rule ih => exact fun start => (ih ascii).repeated (start.length + 1) start

theorem stays_expression (depth : Nat) : (expression depth).Stays text := by
  induction depth with
  | zero => exact fun start finding reached within => ⟨fun _ next => (by cases next), within⟩
  | succ depth ih => exact ih.ofRule Rule.expression_isAscii

end Walk

structure SyntaxError.Marks (e : SyntaxError) (before part : Text) : Prop where
  start : e.start = before.byteLength
  stop : e.stop = (before ++ part).byteLength

theorem Rule.exists_marks {rule : Rule} (ascii : rule.isAscii = true) (text : Text) :
    ∃ before part after, text = before ++ (part ++ after) ∧
      (rule.complaint text).Marks before part ∧
      (∀ c ∈ before, isReadable c = true) ∧ (part.length ≤ 1 ∨ ∀ c ∈ part, c.isDigit = true) := by
  have start : ReadTo text text := ⟨[], rfl, fun _ member => by cases member⟩
  have whole : (seq rule finish).isAscii = true := by simp [isAscii, ascii]
  obtain ⟨_, within⟩ :=
    (Walk.stays_expression text.length).ofRule whole text (.missing text []) start start
  have offset (before rest : Text) (split : text = before ++ rest) :
      text.byteLength - rest.byteLength = before.byteLength := by
    rw [split, Text.byteLength_append]
    omega
  unfold complaint
  dsimp only
  generalize (Walk.ofRule (Walk.expression text.length) (seq rule finish) text
    (.missing text [])).2 = finding at within
  cases finding with
  | missing rest expected =>
    obtain ⟨before, split, readable⟩ := within
    have parted : text = before ++ (rest.take 1 ++ rest.tail) := by cases rest <;> simp [split]
    refine ⟨before, rest.take 1, rest.tail, parted, ⟨offset before rest split, ?_⟩, readable, ?_⟩
    · exact offset (before ++ rest.take 1) rest.tail (by simp [parted])
    · exact .inl (List.length_take_le 1 rest)
  | outOfRange name start rest =>
    obtain ⟨⟨before, split, readable⟩, digits, rfl, numeral⟩ := within
    exact ⟨before, digits, rest, split, ⟨offset _ _ split, offset _ _ (by simp [split])⟩, readable,
      .inr numeral⟩
  | several start rest =>
    obtain ⟨⟨before, split, readable⟩, digits, rfl, numeral⟩ := within
    exact ⟨before, digits, rest, split, ⟨offset _ _ split, offset _ _ (by simp [split])⟩, readable,
      .inr numeral⟩

end Tabletop
