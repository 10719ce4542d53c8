import Mathlib.Data.List.Infix
import Tabletop.Proofs.Reading.LowerCase
import Tabletop.Proofs.Reading.Walks

/-! What complaints point at. A text is put into lower case before it is read, and a complaint
counts the bytes of that. They are the bytes of the text itself as long as the first character that
no rule reads keeps its length. -/
namespace Tabletop

variable {text before part after : Text} {c : Char}

theorem lowerChar_of_isReadable (readable : isReadable c = true) :
    ∃ d, lowerChar c = [d] ∧ d.utf8Size = c.utf8Size := by
  by_cases ascii : c.toNat < 128
  · have size :=
      forall_ascii (P := fun c => c.toLower.utf8Size = c.utf8Size) (by decide +kernel) ascii
    exact ⟨c.toLower, by rw [lowerChar, if_pos ascii], size⟩
  · have blank : isBlank c = true := by simpa [isReadable, ascii] using readable
    exact ⟨c, lowerChar_of_isCaseless (Text.isCaseless_of_isBlank blank), rfl⟩

theorem lowerChar_of_unreadable (foreign : isReadable c = false)
    (kept : Text.byteLength (lowerChar c) = c.utf8Size) :
    ∃ d, lowerChar c = [d] ∧ isReadable d = false := by
  simp only [isReadable, Bool.or_eq_false_iff, decide_eq_false_iff_not] at foreign
  obtain ⟨beyond, visible⟩ := foreign
  rcases lowerChar_beyond beyond with ⟨code, small⟩ | ⟨code, small⟩ | ⟨d, small, high, blank⟩
  · rw [small, ← Char.ofNat_toNat c, code] at kept
    exact absurd kept (by decide)
  · rw [small, ← Char.ofNat_toNat c, code] at kept
    exact absurd kept (by decide)
  · refine ⟨d, small, ?_⟩
    simp only [isReadable, high, decide_false, Bool.false_or]
    refine Bool.eq_false_iff.mpr fun blanks => ?_
    rw [blank blanks, blanks] at visible
    cases visible

namespace Text

theorem not_mem_of_readable (readable : ∀ c ∈ text, isReadable c = true) : 'Σ' ∉ text :=
  fun member =>
  absurd (readable 'Σ' member) (by decide)

theorem lowerAfter_append (readable : ∀ c ∈ before, isReadable c = true) (earlier : Text)
    (rest : Text) :
    lowerAfter earlier (before ++ rest) =
      before.flatMap lowerChar ++ lowerAfter (before.reverse ++ earlier) rest := by
  induction before generalizing earlier with
  | nil => rfl
  | cons c before ih =>
    have other : c ≠ 'Σ' := fun same => not_mem_of_readable readable (same ▸ List.mem_cons_self)
    have later := ih (fun d member => readable d (List.mem_cons_of_mem c member)) (c :: earlier)
    simp [lowerAfter, other, later]

theorem byteLength_flatMap_lowerChar (readable : ∀ c ∈ text, isReadable c = true) :
    byteLength (text.flatMap lowerChar) = text.byteLength := by
  induction text with
  | nil => rfl
  | cons c text ih =>
    obtain ⟨d, small, size⟩ := lowerChar_of_isReadable (readable c List.mem_cons_self)
    simp [small, size, ih fun d member => readable d (List.mem_cons_of_mem c member)]

theorem exists_prefix_of_lower (readable : ∀ c ∈ text, isReadable c = true)
    (starts : before <+: text.flatMap lowerChar) :
    ∃ front, front <+: text ∧ front.flatMap lowerChar = before := by
  induction text generalizing before with
  | nil => exact ⟨[], List.nil_prefix, by simpa using (List.prefix_nil.mp starts).symm⟩
  | cons c text ih =>
    obtain ⟨d, small, _⟩ := lowerChar_of_isReadable (readable c List.mem_cons_self)
    rw [List.flatMap_cons, small, List.singleton_append] at starts
    rcases List.prefix_cons_iff.mp starts with rfl | ⟨more, rfl, later⟩
    · exact ⟨[], List.nil_prefix, rfl⟩
    · obtain ⟨front, inside, rfl⟩ :=
        ih (fun d member => readable d (List.mem_cons_of_mem c member)) later
      exact ⟨c :: front, List.cons_prefix_cons.mpr ⟨rfl, inside⟩, by simp [small]⟩

theorem isDigit_head_lowerAfter (foreign : isReadable c = false) {earlier rest more : Text}
    {d : Char} (same : lowerAfter earlier (c :: rest) = d :: more) : d.isDigit = false := by
  refine Bool.eq_false_iff.mpr fun digit => ?_
  rw [lowerAfter] at same
  split at same
  · split at same <;> (cases same; contradiction)
  · obtain ⟨e, others, small⟩ := List.exists_cons_of_ne_nil (lowerChar_ne_nil c)
    rw [small] at same
    cases same
    have equal := eq_of_mem_lowerChar (digit_facts digit).2.2.1 (small ▸ List.mem_cons_self)
    rw [equal, isReadable_of_isDigit digit] at foreign
    cases foreign

theorem exists_head_lowerAfter (foreign : isReadable c = false)
    (kept : byteLength (lowerChar c) = c.utf8Size) (earlier rest : Text) :
    ∃ d more, lowerAfter earlier (c :: rest) = d :: more ∧ isReadable d = false ∧
      d.utf8Size = c.utf8Size := by
  obtain ⟨d, small, unread⟩ := lowerChar_of_unreadable foreign kept
  rw [lowerAfter]
  split
  · next sigma =>
    rw [beq_iff_eq.mp sigma]
    split <;> exact ⟨_, _, rfl, by decide, by decide⟩
  · rw [small] at kept ⊢
    exact ⟨d, _, rfl, unread, by simpa using kept⟩

end Text

namespace SyntaxError

variable {e : SyntaxError}

/-- Both ends of the complaint are ends of first parts of the text, of which the first is part of
the second. -/
def PointsInto (e : SyntaxError) (text : Text) : Prop :=
  ∃ front upto : Text, front <+: upto ∧ upto <+: text ∧ e.start = front.byteLength ∧
    e.stop = upto.byteLength

instance (e : SyntaxError) (text : Text) : Decidable (e.PointsInto text) :=
  decidable_of_iff
    (∃ upto ∈ text.inits, ∃ front ∈ upto.inits, e.start = Text.byteLength front ∧
      e.stop = Text.byteLength upto)
    ⟨fun ⟨upto, whole, front, part, ends⟩ =>
        ⟨front, upto, (List.mem_inits _ _).mp part, (List.mem_inits _ _).mp whole, ends⟩,
      fun ⟨front, upto, part, whole, ends⟩ =>
        ⟨upto, (List.mem_inits _ _).mpr whole, front, (List.mem_inits _ _).mpr part, ends⟩⟩

theorem Marks.pointsInto (marks : e.Marks before part) (inside : before ++ part <+: text) :
    e.PointsInto text :=
  ⟨before, before ++ part, List.prefix_append before part, inside, marks.start, marks.stop⟩

/-- The first character of the text that no rule reads keeps its length in lower case, if it is not
behind the start of the complaint. -/
def Aligned (e : SyntaxError) (text : Text) : Prop :=
  ∀ c ∈ (text.dropWhile isReadable).head?, Text.byteLength (text.takeWhile isReadable) ≤ e.start →
    Text.byteLength (lowerChar c) = c.utf8Size

theorem Marks.of_lower {stem : Text} (marks : e.Marks before part)
    (readable : ∀ c ∈ stem, isReadable c = true)
    (inside : before ++ part <+: stem.flatMap lowerChar) (rest : Text) :
    e.PointsInto (stem ++ rest) := by
  obtain ⟨upto, whole, same⟩ := Text.exists_prefix_of_lower readable inside
  have known : ∀ c ∈ upto, isReadable c = true := fun c member => readable c (whole.subset member)
  obtain ⟨front, short, first⟩ :=
    Text.exists_prefix_of_lower known (same ▸ List.prefix_append before part)
  refine ⟨front, upto, short, whole.trans (List.prefix_append stem rest), ?_, ?_⟩
  · rw [marks.start, ← first, Text.byteLength_flatMap_lowerChar fun c member =>
      known c (short.subset member)]
  · rw [marks.stop, ← same, Text.byteLength_flatMap_lowerChar known]

theorem split_of_beyond {small earlier rest : Text} (foreign : isReadable c = false)
    (split : small ++ Text.lowerAfter earlier (c :: rest) = before ++ (part ++ after))
    (beyond : ¬ before ++ part <+: small) (kind : part.length ≤ 1 ∨ ∀ c ∈ part, c.isDigit = true) :
    ∃ mid, before = small ++ mid ∧
      Text.lowerAfter earlier (c :: rest) = mid ++ (part ++ after) := by
  rcases List.append_eq_append_iff.mp split with found | ⟨mid, same, behind⟩
  · exact found
  · rcases List.append_eq_append_iff.mp behind with ⟨more, rfl, _⟩ | ⟨more, rfl, later⟩
    · exact absurd ⟨more, by simp [same]⟩ beyond
    · cases mid with
      | nil => exact ⟨[], by simp [same], later⟩
      | cons x mid =>
        cases more with
        | nil => exact absurd (by simp [same]) beyond
        | cons y more =>
          rcases kind with short | digits
          · simp at short
          · have digit := Text.isDigit_head_lowerAfter foreign later
            rw [digits y (by simp)] at digit
            cases digit

theorem Marks.of_unreadable {stem rest more : Text} {d : Char} (marks : e.Marks before part)
    (start : before.byteLength = stem.byteLength) (behind : d :: more = part ++ after)
    (nonempty : part ≠ []) (unread : isReadable d = false) (width : d.utf8Size = c.utf8Size)
    (kind : part.length ≤ 1 ∨ ∀ c ∈ part, c.isDigit = true) : e.PointsInto (stem ++ c :: rest) := by
  obtain ⟨x, others, rfl⟩ := List.exists_cons_of_ne_nil nonempty
  obtain ⟨rfl, _⟩ := List.cons.inj behind
  have single : others = [] := by
    rcases kind with short | digits
    · exact List.length_eq_zero_iff.mp (by simpa using short)
    · rw [isReadable_of_isDigit (digits d List.mem_cons_self)] at unread
      cases unread
  subst single
  refine ⟨stem, stem ++ [c], List.prefix_append stem [c], ⟨rest, by simp⟩, marks.start.trans start,
    ?_⟩
  rw [marks.stop, Text.byteLength_append, Text.byteLength_append, start]
  simp [width]

theorem Aligned.pointsInto (aligned : e.Aligned text)
    (split : text.lowercase = before ++ (part ++ after))
    (marks : e.Marks before part) (readable : ∀ c ∈ before, isReadable c = true)
    (kind : part.length ≤ 1 ∨ ∀ c ∈ part, c.isDigit = true) : e.PointsInto text := by
  have known : ∀ c ∈ text.takeWhile isReadable, isReadable c = true :=
    fun c => List.mem_takeWhile_imp
  have whole : text = text.takeWhile isReadable ++ text.dropWhile isReadable :=
    List.takeWhile_append_dropWhile.symm
  have stops := List.head?_dropWhile_not isReadable text
  unfold Aligned at aligned
  rw [whole] at split ⊢
  generalize text.takeWhile isReadable = stem, text.dropWhile isReadable = rest at *
  rw [Text.lowercase, Text.lowerAfter_append known] at split
  have size := Text.byteLength_flatMap_lowerChar known
  by_cases inside : before ++ part <+: stem.flatMap lowerChar
  · exact marks.of_lower known inside rest
  cases rest with
  | nil => exact absurd ⟨after, by simpa [Text.lowerAfter] using split.symm⟩ inside
  | cons c rest =>
    have foreign : isReadable c = false := by simpa using stops
    obtain ⟨mid, rfl, behind⟩ := split_of_beyond foreign split inside kind
    have kept : Text.byteLength (lowerChar c) = c.utf8Size := by
      refine aligned c rfl ?_
      rw [marks.start, Text.byteLength_append, size]
      exact Nat.le_add_right _ _
    obtain ⟨d, more, first, unread, width⟩ :=
      Text.exists_head_lowerAfter foreign kept (stem.reverse ++ []) rest
    rw [first] at behind
    cases mid with
    | cons x mid =>
      obtain ⟨rfl, _⟩ := List.cons.inj behind
      rw [readable d (by simp)] at unread
      cases unread
    | nil =>
      rw [List.append_nil] at marks inside
      have nonempty : part ≠ [] := by
        rintro rfl
        exact inside (by simp)
      exact marks.of_unreadable size behind nonempty unread width kind

end SyntaxError

/-- A complaint about a text that is no expression, or no dice, is about a place in its lower case.
It is about a place in the text itself if the first character that no rule reads is behind the start
of it or keeps its length. -/
theorem SyntaxError.pointsInto_of_parse {e : SyntaxError}
    (fails : DiceExpr.parse text = .error e ∨ Dice.parse text = .error e) :
    e.PointsInto text.lowercase ∧ (e.Aligned text → e.PointsInto text) := by
  obtain ⟨rule, ascii, rfl⟩ :
      ∃ rule : Rule, rule.isAscii = true ∧ e = rule.complaint text.lowercase := by
    rcases fails with fails | fails
    · unfold DiceExpr.parse at fails
      split at fails
      · cases fails
      · cases fails
        exact ⟨_, Rule.expression_isAscii, rfl⟩
    · unfold Dice.parse at fails
      split at fails
      · cases fails
      · cases fails
        exact ⟨_, Rule.dice_isAscii, rfl⟩
  obtain ⟨before, part, after, split, marks, readable, kind⟩ :=
    Rule.exists_marks ascii text.lowercase
  exact ⟨marks.pointsInto ⟨after, by simp [split]⟩,
    fun aligned => aligned.pointsInto split marks readable kind⟩

theorem DiceExpr.parse_of_none {e : SyntaxError} (unread : DiceExpr.parse? text = none)
    (complaint : Rule.expression.complaint text.lowercase = e) :
    DiceExpr.parse text = .error e := by
  rw [DiceExpr.parse, unread, complaint]

theorem SyntaxError.pointsInto_of_parse_capital :
    let text : Text := ['2', 'D', '6', '+', 'É']
    let e : SyntaxError := ⟨4, 6, "found é expected '-', '+', '0', 'd', or '('"⟩
    DiceExpr.parse text = .error e ∧ e.Aligned text ∧ e.PointsInto text.lowercase ∧
      e.PointsInto text := by
  intro text e
  have fails : DiceExpr.parse text = .error e :=
    DiceExpr.parse_of_none (by decide +kernel) (by decide +kernel)
  have aligned : e.Aligned text := by
    intro c first _
    cases first
    decide +kernel
  obtain ⟨lower, whole⟩ := pointsInto_of_parse (.inl fails)
  exact ⟨fails, aligned, lower, whole aligned⟩

/-- The sign of the kelvin is shorter in lower case, so the end of the text is said to be inside
it. -/
theorem SyntaxError.parse_kelvin_misplaced :
    let text : Text := ['1', 'd', '2', '0', '\u212A', '+']
    let e : SyntaxError := ⟨6, 6, "found end of input expected '-', '+', '0', 'd', or '('"⟩
    DiceExpr.parse text = .error e ∧ text.byteLength = 8 ∧ ¬ e.PointsInto text := by
  intro text e
  exact ⟨DiceExpr.parse_of_none (by decide +kernel) (by decide +kernel), by decide,
    by decide +kernel⟩

end Tabletop
