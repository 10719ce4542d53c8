import Tabletop.Proofs.Reading.Plain
import Tabletop.Text.Blank
import Tabletop.Text.Letter
import Tabletop.Text.Mark

/-! Classes of characters. Whether two sets of characters meet is told from their bounds; no blank
is a digit or a character of a name, and no letter is a mark. Lower case gives no blank, digit or
sign that was not there. -/
namespace Tabletop

namespace CharSet

def above (code : Nat) : List Nat → List Nat
  | first :: last :: rest => if last ≤ code then above code rest else first :: last :: rest
  | rest => rest

def apart : List Nat → List Nat → Bool
  | first :: last :: rest, others =>
    let ahead := above first others
    (match ahead with
      | [] => true
      | next :: _ => last ≤ next) && apart rest ahead
  | bounds, _ => bounds.isEmpty

theorem covers_above {code low : Nat} (reached : low ≤ code) {bounds : List Nat}
    (covered : covers code bounds = true) : covers code (above low bounds) = true := by
  fun_induction above low bounds with
  | case1 first last rest passed ih =>
    have inside : covers code rest = true := by
      have behind : ¬ code < last := by omega
      simp only [covers, behind, if_false, Bool.not_not] at covered
      split at covered
      · cases covered
      · exact covered
    exact ih inside
  | case2 => exact covered
  | case3 => exact covered

theorem covers_of_apart {code : Nat} {bounds others : List Nat}
    (disjoint : apart bounds others = true) (covered : covers code bounds = true) :
    covers code others = false := by
  fun_induction apart bounds others with
  | case1 first last rest others ahead ih =>
    rw [Bool.and_eq_true] at disjoint
    obtain ⟨next, later⟩ := disjoint
    have reached : first ≤ code := by
      refine Nat.le_of_not_lt fun below => ?_
      rw [covers_of_lt below] at covered
      cases covered
    refine Bool.eq_false_iff.mpr fun other => ?_
    have other : covers code ahead = true := covers_above reached other
    by_cases inside : code < last
    · cases shape : ahead with
      | nil =>
        rw [shape] at other
        cases other
      | cons bound tail =>
        simp only [shape, decide_eq_true_eq] at next
        rw [shape, covers_of_lt (Nat.lt_of_lt_of_le inside next)] at other
        cases other
    · have before : ¬ code < first := Nat.not_lt.mpr reached
      simp only [covers, before, inside, if_false, Bool.not_not] at covered
      rw [ih later covered] at other
      cases other
  | case2 bounds =>
    rw [List.isEmpty_iff.mp disjoint] at covered
    cases covered

end CharSet

theorem isMark_of_isLetter {c : Char} (letter : isLetter c = true) : isMark c = false := by
  unfold isLetter at letter
  unfold isMark
  split at letter
  · next ascii => rw [if_pos ascii]
  · next beyond =>
    rw [if_neg beyond]
    exact CharSet.covers_of_apart (by decide +kernel) letter

theorem Text.forall_of_all {P : Char → Prop} [DecidablePred P] {text : Text}
    (checked : text.all (fun c => decide (P c)) = true) : ∀ c ∈ text, P c := by
  simpa using checked

theorem forall_ascii {P : Char → Prop} (checked : ∀ n < 128, P (Char.ofNat n)) {c : Char}
    (ascii : c.toNat < 128) : P c := by
  have here := checked c.toNat ascii
  rwa [Char.ofNat_toNat] at here

def blankCodes : List Nat :=
  [9, 10, 11, 12, 13, 0x20, 0x85, 0xA0, 0x1680, 0x2000, 0x2001, 0x2002, 0x2003, 0x2004, 0x2005,
    0x2006, 0x2007, 0x2008, 0x2009, 0x200A, 0x2028, 0x2029, 0x202F, 0x205F, 0x3000]

theorem mem_blankCodes {c : Char} (blank : isBlank c = true) : c.toNat ∈ blankCodes := by
  simp only [isBlank, Bool.or_eq_true, Bool.and_eq_true, decide_eq_true_eq, beq_iff_eq] at blank
  simp only [blankCodes, List.mem_cons, List.not_mem_nil, or_false]
  omega

theorem forall_blank {P : Char → Prop} (checked : ∀ n ∈ blankCodes, P (Char.ofNat n)) {c : Char}
    (blank : isBlank c = true) : P c := by
  have here := checked c.toNat (mem_blankCodes blank)
  rwa [Char.ofNat_toNat] at here

theorem isDecimalDigit_of_isBlank {c : Char} (blank : isBlank c = true) :
    isDecimalDigit c = false :=
  forall_blank (P := fun c => isDecimalDigit c = false) (by decide +kernel) blank

theorem isNameChar_of_isBlank {c : Char} (blank : isBlank c = true) : isNameChar c = false :=
  forall_blank (P := fun c => isNameChar c = false) (by decide +kernel) blank

theorem lowerChar_ne_nil (c : Char) : lowerChar c ≠ [] := by
  unfold lowerChar
  split
  · exact List.cons_ne_nil _ _
  · split <;> exact List.cons_ne_nil _ _

/-- A blank, or an ASCII character that is no letter. -/
def isCaseless (c : Char) : Bool := isBlank c || (c.toNat < 128 && !c.isAlpha)

theorem capitalRuns_facts : ∀ run ∈ capitalRuns,
    (run.first = 0x212A ∧ run.last = 0x212A ∧ run.image = 0x6B) ∨
      (128 ≤ run.image ∧ (run.image + (run.last - run.first) < 0xD800 ∨
          (0xDFFF < run.image ∧ run.image + (run.last - run.first) < 0x110000)) ∧
        ∀ blank ∈ blankCodes, blank < run.image ∨ run.image + (run.last - run.first) < blank) := by
  decide +kernel

/-- What a character beyond ASCII becomes: a `k` or a dotted `i` for the two that leave it, else one
character beyond ASCII, which is a blank only if it was one. -/
theorem lowerChar_beyond {c : Char} (beyond : ¬ c.toNat < 128) :
    (c.toNat = 0x212A ∧ lowerChar c = ['k']) ∨ (c.toNat = 0x130 ∧ lowerChar c = ['i', '\u0307']) ∨
      ∃ m, lowerChar c = [m] ∧ ¬ m.toNat < 128 ∧ (isBlank m = true → c = m) := by
  unfold lowerChar
  rw [if_neg beyond]
  split
  · next dotted => exact .inr (.inl ⟨by simpa using dotted, rfl⟩)
  · unfold CaseRun.map
    split
    · next run found =>
      have listed := List.mem_of_find?_eq_some found
      have within := List.find?_some found
      simp only [Bool.and_eq_true, decide_eq_true_eq] at within
      obtain ⟨⟨first, last⟩, _⟩ := within
      rcases capitalRuns_facts run listed with ⟨kelvin, only, image⟩ | ⟨high, valid, visible⟩
      · left
        have code : c.toNat = 0x212A := by omega
        rw [image, code, kelvin]
        exact ⟨rfl, rfl⟩
      · right; right
        have valid : (run.image + (c.toNat - run.first)).isValidChar := by
          simp only [Nat.isValidChar]
          omega
        have number : (Char.ofNat (run.image + (c.toNat - run.first))).toNat =
            run.image + (c.toNat - run.first) := by
          rw [Char.ofNat, dif_pos valid]
          rfl
        refine ⟨_, rfl, by omega, fun blank => ?_⟩
        have outside := visible _ (mem_blankCodes blank)
        omega
    · refine .inr (.inr ⟨c, by rw [Char.ofNat_toNat], beyond, fun _ => rfl⟩)

theorem eq_of_mem_lowerChar {c m : Char} (caseless : isCaseless m = true)
    (member : m ∈ lowerChar c) : c = m := by
  by_cases ascii : c.toNat < 128
  · have small := forall_ascii (P := fun c => isCaseless c.toLower = true →
      c.toLower = c) (by decide +kernel) ascii
    rw [lowerChar, if_pos ascii, List.mem_singleton] at member
    rw [member] at caseless ⊢
    exact (small caseless).symm
  · rcases lowerChar_beyond ascii with ⟨_, small⟩ | ⟨_, small⟩ | ⟨k, small, high, blank⟩
    · rw [small, List.mem_singleton] at member
      subst member
      cases caseless
    · simp only [small, List.mem_cons, List.not_mem_nil, or_false] at member
      rcases member with rfl | rfl <;> cases caseless
    · rw [small, List.mem_singleton] at member
      subst member
      simp only [isCaseless, high, decide_false, Bool.false_and, Bool.or_false] at caseless
      exact blank caseless

theorem digit_facts {c : Char} (digit : c.isDigit = true) :
    isNameStart c = false ∧ isBlank c = false ∧ isCaseless c = true ∧ isDecimalDigit c = true := by
  have ascii : c.toNat < 128 := by
    have upper : c.toNat ≤ '9'.toNat := (Char.isDigit_iff_toNat.mp digit).2
    have small : '9'.toNat < 128 := by decide
    omega
  exact forall_ascii (P := fun c => c.isDigit = true →
    isNameStart c = false ∧ isBlank c = false ∧ isCaseless c = true ∧
      isDecimalDigit c = true) (by decide +kernel)
    ascii digit

theorem lowerChar_of_isCaseless {m : Char} (caseless : isCaseless m = true) :
    lowerChar m = [m] := by
  cases blank : isBlank m with
  | true => exact forall_blank (P := fun c => lowerChar c = [c]) (by decide +kernel) blank
  | false =>
    simp only [isCaseless, blank, Bool.false_or, Bool.and_eq_true, decide_eq_true_eq] at caseless
    exact forall_ascii (P := fun c => (!c.isAlpha) = true →
      lowerChar c = [c]) (by decide +kernel) caseless.1 caseless.2

theorem eq_of_d_mem_lowerChar {c : Char} (member : 'd' ∈ lowerChar c) : c = 'd' ∨ c = 'D' := by
  by_cases ascii : c.toNat < 128
  · exact forall_ascii (P := fun c => 'd' ∈ lowerChar c →
      c = 'd' ∨ c = 'D') (by decide +kernel) ascii member
  · rcases lowerChar_beyond ascii with ⟨_, small⟩ | ⟨_, small⟩ | ⟨k, small, high, _⟩
    · simp [small] at member
    · rw [small] at member
      simp at member
    · rw [small, List.mem_singleton] at member
      exact absurd (by rw [← member]; decide) high

theorem eq_of_mem_lowerChar_of_digit {c m : Char} (digit : isDecimalDigit c = true)
    (ascii : m.toNat < 128) (member : m ∈ lowerChar c) : c = m := by
  by_cases near : c.toNat < 128
  · have small := forall_ascii (P := fun c => isDecimalDigit c = true →
      c.toLower = c) (by decide +kernel) near digit
    rw [lowerChar, if_pos near, small, List.mem_singleton] at member
    exact member.symm
  · have code : c = Char.ofNat c.toNat := (Char.ofNat_toNat c).symm
    rcases lowerChar_beyond near with ⟨kelvin, _⟩ | ⟨dotted, _⟩ | ⟨k, small, high, _⟩
    · rw [code, kelvin] at digit
      cases digit
    · rw [code, dotted] at digit
      cases digit
    · rw [small, List.mem_singleton] at member
      exact absurd (member ▸ ascii) high

end Tabletop
