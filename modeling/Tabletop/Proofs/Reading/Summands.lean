import Tabletop.Proofs.Reading.Cuts
import Tabletop.Proofs.Totalling.Zeros

/-! Summands that can be taken out of a text. A zero in parentheses goes, and the plus or minus
directly before it goes with it. What is left is a sentence again and comes to the same, as long as
the zero is no factor, has no further sign, and a minus that comes to stand in front takes nothing
but the factor behind it. -/
namespace Tabletop

open Text (room)

def OpensFactor (text : Text) : Prop :=
  ∃ op ∈ Reader.factorOperators, text.trimStart.head? = some op.symbol

instance (text : Text) : Decidable (OpensFactor text) :=
  inferInstanceAs (Decidable (∃ op ∈ Reader.factorOperators, text.trimStart.head? = some op.symbol))

/-- A minus that comes first stands before a factor that is neither multiplied nor divided. -/
def Undivided (text : Text) : Prop :=
  ∀ (sign factor rest : Text) (e : DiceExpr), text = sign ++ (factor ++ rest) → Spaced ['-'] sign →
    Sentence .unary factor e → ¬ OpensFactor rest

theorem Text.head?_trimStart_append {text : Text} {c : Char} (first : text.trimStart.head? = some c)
    (more : Text) : (text ++ more).trimStart.head? = some c := by
  obtain ⟨before, blank, whole⟩ := text.exists_blank_append
  obtain ⟨rest, start⟩ := List.head?_eq_some_iff.mp first
  have visible := visible_of_trimStart start
  rw [whole, start, List.append_assoc, trimStart_append blank, List.cons_append,
    trimStart_cons visible, List.head?_cons]

theorem OpensFactor.append {text : Text} (opens : OpensFactor text) (more : Text) :
    OpensFactor (text ++ more) := by
  obtain ⟨op, known, first⟩ := opens
  exact ⟨op, known, Text.head?_trimStart_append first more⟩

theorem Spaced.opensFactor {op : Op} {mid : Text} (spaced : Spaced [op.symbol] mid)
    (kind : op.isMultiplicative = true) (rest : Text) : OpensFactor (mid ++ rest) :=
  ⟨op, Reader.mem_factorOperators.mpr kind, spaced.head_trimStart rfl op.symbol_facts.2.1 rest⟩

theorem Undivided.of_append {text more : Text} (undivided : Undivided (text ++ more)) :
    Undivided text := by
  intro sign factor rest e split spaced sentence opens
  have whole : text ++ more = sign ++ (factor ++ (rest ++ more)) := by
    simp only [split, List.append_assoc]
  exact undivided sign factor (rest ++ more) e whole spaced sentence (opens.append more)

theorem Undivided.of_not_mem {text : Text}
    (fresh : ∀ op ∈ Reader.factorOperators, op.symbol ∉ text) : Undivided text := by
  rintro sign factor rest e rfl _ _ ⟨op, known, first⟩
  have member : op.symbol ∈ rest := Text.mem_of_mem_trimStart (List.mem_of_head? first)
  exact fresh op known (by simp [member])

/-- A zero can be taken out of a sentence from between the two texts. -/
structure Vacant (level : Level) (stem after : Text) : Prop where
  concluded : Concluded stem
  unfactored : ¬ OpensFactor after
  leading : stem = [] → level = .sum → Undivided after
  opening : stem.getLast? = some '(' → Undivided after ∧ after.trimStart.head? ≠ some ')'

/-- What a sentence is without a zero: nothing, or another sentence that comes to the same. -/
inductive Vacated (level : Level) (stem after : Text) (e : DiceExpr) : Prop where
  | empty : stem = [] → after.allBlank = true → e.IsZero → Vacated level stem after e
  | rest {left : DiceExpr} : (stem = [] → level = .sum) →
      (∀ blank : Text, blank.allBlank = true → Sentence level (stem ++ (blank ++ after)) left) →
        left.outcome = e.outcome → Vacated level stem after e

namespace Vacant

variable {level inner : Level} {stem first after more : Text}

theorem before (vacant : Vacant level stem (after ++ more)) (same : inner = .sum → level = .sum) :
    Vacant inner stem after where
  concluded := vacant.concluded
  unfactored := fun opens => vacant.unfactored (opens.append more)
  leading := fun empty sum => (vacant.leading empty (same sum)).of_append
  opening := fun opens =>
    ⟨(vacant.opening opens).1.of_append,
      fun close => (vacant.opening opens).2 (Text.head?_trimStart_append close more)⟩

theorem behind (vacant : Vacant level (first ++ stem) after) (nonempty : stem ≠ []) :
    Vacant inner stem after where
  concluded := fun c last => vacant.concluded c (List.mem_getLast?_append_of_mem_getLast? last)
  unfactored := vacant.unfactored
  leading := fun empty => absurd empty nonempty
  opening := fun opens => vacant.opening (List.mem_getLast?_append_of_mem_getLast? opens)

theorem opened (vacant : Vacant level (first ++ '(' :: stem) (after ++ ')' :: more)) :
    Vacant .sum stem after := by
  have inside : Vacant level (first ++ '(' :: stem) after := vacant.before id
  rcases List.eq_nil_or_concat' stem with rfl | ⟨start, last, rfl⟩
  · exact { inside with
      concluded := fun _ last => by cases last
      leading := fun _ _ => (inside.opening (by simp)).1
      opening := fun opens => by cases opens }
  · rw [← List.singleton_append, ← List.append_assoc] at inside
    exact inside.behind (by simp)

theorem tighter (vacant : Vacant level stem after) (other : inner ≠ .sum) :
    Vacant inner stem after :=
  { vacant with leading := fun _ sum => absurd sum other }

theorem start (vacant : Vacant level stem after) (other : inner ≠ .sum) :
    Vacant inner [] after where
  concluded := fun _ last => by cases last
  unfactored := vacant.unfactored
  leading := fun _ sum => absurd sum other
  opening := fun opens => by cases opens

end Vacant

section Front

variable {sign text : Text} {e : DiceExpr}

theorem Sentence.plus_product (spaced : Spaced ['+'] sign) (sentence : Sentence .product text e) :
    Sentence .product (sign ++ text) e := by
  generalize here : Level.product = level at sentence
  induction sentence with
  | ofUnary sentence => exact .ofUnary (.plus spaced sentence)
  | product _ kind mid last ih =>
    rw [← List.append_assoc]
    exact .product (ih here) kind mid last
  | _ => cases here

theorem Sentence.unary_or_opens (sentence : Sentence .product text e) :
    Sentence .unary text e ∨
      ∃ factor rest a, text = factor ++ rest ∧ Sentence .unary factor a ∧ OpensFactor rest := by
  generalize here : Level.product = level at sentence
  induction sentence with
  | ofUnary sentence => exact .inl sentence
  | @product left mid right op _ _ _ kind spaced _ ih =>
    rcases ih here with sole | ⟨factor, rest, a, rfl, first, opens⟩
    · exact .inr ⟨left, mid ++ right, _, rfl, sole, spaced.opensFactor kind right⟩
    · exact .inr ⟨factor, rest ++ (mid ++ right), a, by simp, first, opens.append _⟩
  | _ => cases here

theorem Sentence.lead {zero b : DiceExpr} {op : Op} (isZero : zero.IsZero)
    (kind : op.isMultiplicative = false) (spaced : Spaced [op.symbol] sign)
    (sentence : Sentence .product text b) (undivided : Undivided (sign ++ text)) :
    ∃ left : DiceExpr,
      (∀ blank : Text, blank.allBlank = true →
        Sentence .sum (blank ++ (sign ++ text)) left) ∧
      left.outcome = DiceExpr.outcome (.binary op zero b) := by
  cases op with
  | add =>
    refine ⟨b, fun blank blanks => ?_, (isZero.outcome_add b).symm⟩
    rw [← List.append_assoc]
    exact .ofProduct (.plus_product (spaced.blank_append blanks) sentence)
  | sub =>
    refine ⟨.neg b, fun blank blanks => ?_, (isZero.outcome_sub b).symm⟩
    rw [← List.append_assoc]
    rcases sentence.unary_or_opens with sole | ⟨factor, rest, a, rfl, first, opens⟩
    · exact .ofProduct (.ofUnary (.minus (spaced.blank_append blanks) sole))
    · exact absurd opens (undivided sign factor rest a rfl spaced first)
  | mul | divDown | divUp => cases kind

theorem Sentence.isZero_of_digit (sentence : Sentence .sum ['0'] e) : e.IsZero := by
  have reads : DiceExpr.parse? ['0'] = some e := DiceExpr.parse?_of_sentence sentence
  have zero : DiceExpr.parse? ['0'] = some (.number ⟨0, by decide, by decide⟩) := by decide +kernel
  obtain rfl := Option.some.inj (reads.symm.trans zero)
  exact DiceExpr.isZero_number

end Front

def Vacates (level : Level) (filled : Text) (e : DiceExpr) : Prop :=
  ∀ {stem gap after : Text}, filled = stem ++ (gap ++ (room ++ after)) → Gap gap →
    Vacant level stem after → Vacated level stem after e

namespace Vacated

variable {level inner : Level} {stem after : Text} {e : DiceExpr}

theorem isZero_of_nil (vacated : Vacated level [] after e) (other : level ≠ .sum) :
    after.allBlank = true ∧ e.IsZero := by
  cases vacated with
  | empty _ blank isZero => exact ⟨blank, isZero⟩
  | rest alone => exact absurd (alone rfl) other

theorem join (vacated : Vacated inner stem after e) (nonempty : stem ≠ []) {first : Text}
    {build : DiceExpr → DiceExpr} (joins : ∀ {text : Text} {e : DiceExpr}, Sentence inner text e →
      Sentence level (first ++ text) (build e))
    (respects : ∀ {left : DiceExpr}, left.outcome = e.outcome →
      (build left).outcome = (build e).outcome) :
    Vacated level (first ++ stem) after (build e) := by
  cases vacated with
  | empty alone => contradiction
  | rest _ sentence same =>
    refine .rest (fun empty => absurd (List.append_eq_nil_iff.mp empty).2 nonempty)
      (fun blank blanks => ?_) (respects same)
    rw [List.append_assoc]
    exact joins (sentence blank blanks)

end Vacated

namespace Vacates

variable {level inner : Level} {text left mid right : Text} {op : Op} {a b e : DiceExpr}

theorem lift (vacates : Vacates inner text e) (other : inner ≠ .sum)
    (lifts : ∀ {text : Text} {e : DiceExpr}, Sentence inner text e → Sentence level text e) :
    Vacates level text e := by
  intro stem gap after whole gaps vacant
  cases vacates whole gaps (vacant.tighter other) with
  | empty alone blank isZero => exact .empty alone blank isZero
  | rest alone sentence same =>
    exact .rest (fun empty => absurd (alone empty) other)
      (fun blank blanks => lifts (sentence blank blanks)) same

theorem join_right {gap stem after : Text} (vacates : Vacates inner right b) (nonempty : stem ≠ [])
    (split : right = stem ++ (gap ++ (room ++ after))) (gaps : Gap gap)
    (vacant : Vacant level (left ++ (mid ++ stem)) after)
    (joins : ∀ {text : Text} {e : DiceExpr},
      Sentence inner text e → Sentence level (left ++ (mid ++ text)) (.binary op a e)) :
    Vacated level (left ++ (mid ++ stem)) after (.binary op a b) := by
  rw [← List.append_assoc] at vacant ⊢
  refine (vacates split gaps (vacant.behind nonempty)).join nonempty (fun sentence => ?_)
    (DiceExpr.outcome_binary_congr op rfl)
  rw [List.append_assoc]
  exact joins sentence

theorem sum (first : Sentence .sum left a) (kind : op.isMultiplicative = false)
    (spaced : Spaced [op.symbol] mid) (last : Sentence .product right b)
    (vacatesLeft : Vacates .sum left a) (vacatesRight : Vacates .product right b) :
    Vacates .sum (left ++ (mid ++ right)) (.binary op a b) := by
  intro stem gap after whole gaps vacant
  rcases gaps.split_operands vacant.concluded first.nested spaced whole with
    ⟨rest, inside, rfl⟩ | ⟨rest, nonempty, rfl, split⟩ | ⟨_, old, blank, blanks, starts, rfl, split⟩
  · cases vacatesLeft inside gaps (vacant.before id) with
    | empty alone blank isZero =>
      -- The left operand is the zero, so the operator comes to stand in front of the right one.
      have undivided : Undivided ((rest ++ mid) ++ right) := by simpa using vacant.leading alone rfl
      obtain ⟨e, sentence, same⟩ := last.lead isZero kind (spaced.blank_append blank) undivided
      refine .rest (fun _ => rfl) (fun blank blanks => ?_) same
      simpa [alone] using sentence blank blanks
    | rest alone sentence same =>
      refine .rest alone (fun blank blanks => ?_) (DiceExpr.outcome_binary_congr op same rfl)
      simpa using Sentence.sum (sentence blank blanks) kind spaced last
  · exact vacatesRight.join_right nonempty split gaps vacant fun sentence =>
      .sum first kind spaced sentence
  · -- The right operand is the zero. Nothing but blanks is left of it, and they go behind the left
    -- one.
    have zero : right = [] ++ (blank ++ (room ++ after)) := split
    obtain ⟨ends, isZero⟩ :=
      (vacatesRight zero (.inl starts) (vacant.start nofun)).isZero_of_nil nofun
    refine .rest (fun _ => rfl) (fun new news => ?_) (isZero.outcome_behind kind a).symm
    exact first.reblank rfl vacant.concluded.trimEnd blanks
      (Text.allBlank_append_iff.mpr ⟨news, ends⟩)

theorem product (first : Sentence .product left a) (kind : op.isMultiplicative = true)
    (spaced : Spaced [op.symbol] mid) (last : Sentence .unary right b)
    (vacatesLeft : Vacates .product left a) (vacatesRight : Vacates .unary right b) :
    Vacates .product (left ++ (mid ++ right)) (.binary op a b) := by
  intro stem gap after whole gaps vacant
  rcases gaps.split_operands vacant.concluded first.nested spaced whole with
    ⟨rest, inside, rfl⟩ | ⟨rest, nonempty, rfl, split⟩ | ⟨additive, _⟩
  · cases vacatesLeft inside gaps (vacant.before id) with
    | empty _ blank =>
      -- Then the zero is a factor.
      have opens : OpensFactor ((rest ++ mid) ++ right) :=
        (spaced.blank_append blank).opensFactor kind right
      exact absurd (by simpa using opens) vacant.unfactored
    | rest alone sentence same =>
      refine .rest alone (fun blank blanks => ?_) (DiceExpr.outcome_binary_congr op same rfl)
      simpa using Sentence.product (sentence blank blanks) kind spaced last
  · exact vacatesRight.join_right nonempty split gaps vacant fun sentence =>
      .product first kind spaced sentence
  · rw [kind] at additive
    cases additive

theorem signed {sign : Text} {build : DiceExpr → DiceExpr} (op : Op)
    (spaced : Spaced [op.symbol] sign) (vacates : Vacates .unary text e)
    (joins : ∀ {text : Text} {e : DiceExpr}, Sentence .unary text e →
      Sentence .unary (sign ++ text) (build e))
    (respects : ∀ {left : DiceExpr}, left.outcome = e.outcome →
      (build left).outcome = (build e).outcome)
    (zero : e.IsZero → (build e).IsZero) : Vacates .unary (sign ++ text) (build e) := by
  intro stem gap after whole gaps vacant
  -- Before the sign there is an empty operand, which holds no zero.
  have whole : [] ++ (sign ++ text) = stem ++ (gap ++ (room ++ after)) := whole
  rcases gaps.split_operands vacant.concluded (nested_of_allBlank rfl) spaced whole with
    ⟨rest, inside, _⟩ | ⟨rest, nonempty, rfl, split⟩ | ⟨_, old, blank, _, starts, alone, split⟩
  · simp [room, Expr.grouped] at inside
  · rw [List.nil_append] at vacant ⊢
    exact (vacates split gaps (vacant.behind nonempty)).join nonempty joins respects
  · obtain ⟨rfl, rfl⟩ := List.append_eq_nil_iff.mp alone.symm
    have split : text = [] ++ (blank ++ (room ++ after)) := split
    obtain ⟨ends, isZero⟩ := (vacates split (.inl starts) (vacant.start nofun)).isZero_of_nil nofun
    exact .empty rfl ends (zero isZero)

theorem of_not_mem (unopened : '(' ∉ text) : Vacates level text e := by
  intro stem gap after whole
  exact absurd (by rw [whole]; simp [room, Expr.grouped]) unopened

theorem eq_of_grouped_zero {within trail after : Text} (nested : Nested within)
    (same : within ++ ')' :: trail = '0' :: ')' :: after) : within = ['0'] ∧ trail = after := by
  rcases List.append_eq_cons_iff.mp same with ⟨_, other⟩ | ⟨rest, rfl, close⟩
  · cases other
  · rcases List.append_eq_cons_iff.mp close.symm with ⟨rfl, behind⟩ | ⟨others, rfl, _⟩
    · exact ⟨rfl, (List.cons.inj behind).2⟩
    · exact absurd (nested.opened ['0'] others rfl) (by decide)

theorem group {within : Text} (sentence : Sentence .sum within e)
    (spaced : Spaced ('(' :: (within ++ [')'])) text)
    (vacates : Vacates .sum within e) : Vacates .atom text e := by
  intro stem gap after whole gaps vacant
  obtain ⟨lead, trail, starts, ends, rfl⟩ := spaced
  have blank : Spaced [] lead := ⟨lead, [], starts, rfl, by simp⟩
  rw [← List.append_assoc stem] at whole
  obtain ⟨before, outside, split⟩ := blank.split_before_room List.not_mem_nil whole
  cases before with
  | nil =>
    -- These are the parentheses of the zero.
    obtain ⟨rfl, rfl⟩ :=
      eq_of_grouped_zero sentence.nested (by simpa [room, Expr.grouped] using split)
    rw [List.append_nil] at outside
    have front : Text.allBlank (stem ++ gap) = true := outside ▸ starts
    have alone : stem = [] :=
      @Concluded.eq_nil_of_blank [] stem vacant.concluded (Text.allBlank_append_iff.mp front).1
    exact .empty alone ends sentence.isZero_of_digit
  | cons c before =>
    obtain ⟨rfl, split⟩ := List.cons.inj split
    have split : within ++ ')' :: trail = before ++ (room ++ after) := by simpa using split
    obtain ⟨stem, rfl, rfl⟩ := gaps.split_at_opening outside
    rcases split_around_room sentence.nested split with ⟨more, inside, rfl⟩ | ⟨more, _, behind⟩
    · rw [List.append_assoc] at inside
      have inner : Vacant .sum stem more := vacant.opened
      cases vacates inside gaps inner with
      | empty alone blank =>
        subst alone
        refine absurd ?_ (vacant.opening (by simp)).2
        rw [Text.trimStart_append blank]
        rfl
      | rest _ sentence same =>
        refine .rest (fun empty => by simp at empty) (fun blank blanks => ?_) same
        exact .group (sentence blank blanks) ⟨lead, trail, starts, ends, by simp⟩
    · cases more with
      | nil => cases behind
      | cons c more =>
        have member : '(' ∈ trail := by simp [(List.cons.inj behind).2, room, Expr.grouped]
        exact absurd member (Text.not_mem_of_allBlank (by decide) ends)

end Vacates

/-- A zero in parentheses can be taken out of a sentence wherever it is a summand of its own. -/
theorem Sentence.vacates {level : Level} {text : Text} {e : DiceExpr}
    (sentence : Sentence level text e) : Vacates level text e := by
  induction sentence with
  | ofProduct _ ih => exact ih.lift nofun .ofProduct
  | ofUnary _ ih => exact ih.lift nofun .ofUnary
  | ofAtom _ ih => exact ih.lift nofun .ofAtom
  | sum first kind spaced last left right => exact Vacates.sum first kind spaced last left right
  | product first kind spaced last left right =>
      exact Vacates.product first kind spaced last left right
  | minus spaced _ ih => exact ih.signed .sub spaced (.minus spaced) DiceExpr.outcome_neg_congr .neg
  | plus spaced _ ih => exact ih.signed .add spaced (.plus spaced) id id
  | dice term spaced =>
    exact Vacates.of_not_mem
      (spaced.not_mem (by decide) (Text.not_mem_of_all term.termChars (by decide)))
  | number numeral _ spaced =>
    exact Vacates.of_not_mem
      (spaced.not_mem (by decide) (Text.not_mem_of_all numeral.termChars (by decide)))
  | group inner spaced ih => exact ih.group inner spaced

end Tabletop
