import Tabletop.Proofs.Reading.LowerCase
import Tabletop.Proofs.Reading.Nesting
import Tabletop.Proofs.Reading.Printing

/-! Texts with a mark for an operand. A zero in parentheses shows whether there is room for one:
where the text is read with it, any other operand can stand at the marks as well, and the expression
is the same around it. -/
namespace Tabletop

namespace Text

/-- The text with another one at every mark. -/
def filledWith (text new : Text) : Text := text.flatMap fun c => if c = '&' then new else [c]

variable {text new : Text}

theorem filledWith_append (s t new : Text) :
    filledWith (s ++ t) new = s.filledWith new ++ t.filledWith new :=
  List.flatMap_append

theorem filledWith_mark (text new : Text) :
    filledWith ('&' :: text) new = new ++ text.filledWith new := rfl

theorem filledWith_cons {c : Char} (other : c ≠ '&') (text new : Text) :
    filledWith (c :: text) new = c :: text.filledWith new := by
  simp [filledWith, other]

theorem filledWith_of_not_mem (fresh : '&' ∉ text) : text.filledWith new = text := by
  induction text with
  | nil => rfl
  | cons c cs ih =>
    have other : c ≠ '&' := fun same => fresh (same ▸ List.mem_cons_self)
    rw [filledWith_cons other, ih fun member => fresh (List.mem_cons_of_mem c member)]

def room : Text := Expr.grouped ['0']

theorem split_room {s t : Text} (whole : room = s ++ t)
    (closed : ∀ before after, s = before ++ '(' :: after → ')' ∈ after) : s = [] ∨ t = [] := by
  change ['(', '0', ')'] = s ++ t at whole
  match s with
  | [] => exact .inl rfl
  | [_] =>
    cases whole
    exact absurd (closed [] [] rfl) (by decide)
  | [_, _] =>
    cases whole
    exact absurd (closed [] ['0'] rfl) (by decide)
  | [_, _, _] =>
    cases whole
    exact .inr rfl
  | _ :: _ :: _ :: _ :: _ => cases whole

theorem split_filledWith {s t : Text} (whole : text.filledWith room = s ++ t)
    (closed : ∀ before after, s = before ++ '(' :: after → ')' ∈ after) :
    ∃ first second, text = first ++ second ∧ first.filledWith room = s ∧
      second.filledWith room = t := by
  induction text generalizing s with
  | nil =>
    obtain ⟨rfl, rfl⟩ := List.append_eq_nil_iff.mp whole.symm
    exact ⟨[], [], rfl, rfl, rfl⟩
  | cons c cs ih =>
    rw [← List.singleton_append, filledWith_append] at whole
    rcases List.append_eq_append_iff.mp whole with ⟨mid, rfl, others⟩ | ⟨mid, piece, behind⟩
    · obtain ⟨first, second, rfl, rfl, rest⟩ := ih others fun before after split =>
        closed (filledWith [c] room ++ before) after (by rw [split, List.append_assoc])
      exact ⟨c :: first, second, rfl, filledWith_append [c] first room, rest⟩
    · -- The part ends within what stands for this character, which is never cut in two.
      have cut : s = [] ∨ mid = [] := by
        by_cases mark : c = '&'
        · subst mark
          exact split_room piece closed
        · rw [filledWith_cons mark] at piece
          rcases List.append_eq_singleton_iff.mp piece.symm with ⟨rfl, _⟩ | ⟨_, rfl⟩
          · exact .inl rfl
          · exact .inr rfl
      rcases cut with rfl | rfl
      · exact ⟨[], c :: cs, rfl, rfl,
          by rw [← List.singleton_append, filledWith_append, whole, List.nil_append]⟩
      · exact ⟨[c], cs, rfl, by rw [piece, List.append_nil], behind.symm⟩

theorem unmarked_of_filledWith {filled : Text} (same : text.filledWith room = filled)
    (unopened : '(' ∉ filled) : '&' ∉ text ∧ text = filled := by
  have fresh : '&' ∉ text := by
    intro member
    obtain ⟨before, after, rfl⟩ := List.append_of_mem member
    rw [filledWith_append, filledWith_mark] at same
    exact unopened (same ▸ List.mem_append_right _ List.mem_cons_self)
  rw [filledWith_of_not_mem fresh] at same
  exact ⟨fresh, same⟩

end Text

def Expr.filled : Expr (Option Dice) → DiceExpr → DiceExpr
  | number n, _ => number n
  | leaf none, operand => operand
  | leaf (some dice), _ => leaf dice
  | neg e, operand => neg (e.filled operand)
  | binary op a b, operand => binary op (a.filled operand) (b.filled operand)

/-- The text is a sentence around its marks: with an operand at each of them it denotes the
expression with that operand at its open leaves, and there are as many of these. -/
structure Template (level : Level) (text : Text) (shape : Expr (Option Dice)) : Prop where
  places : shape.leaves.count none = text.count '&'
  sentence {new : Text} {operand : DiceExpr} :
    Sentence .atom new operand → Sentence level (text.filledWith new) (shape.filled operand)

theorem Spaced.widen {core text before after : Text} (spaced : Spaced core text)
    (starts : before.allBlank = true) (ends : after.allBlank = true) :
    Spaced core (before ++ (text ++ after)) := by
  obtain ⟨first, last, blank, blank', rfl⟩ := spaced
  refine ⟨before ++ first, last ++ after, ?_, ?_, by simp⟩
  · exact Text.allBlank_append_iff.mpr ⟨starts, blank⟩
  · exact Text.allBlank_append_iff.mpr ⟨blank', ends⟩

theorem Spaced.blank_append {core text before : Text} (spaced : Spaced core text)
    (starts : before.allBlank = true) : Spaced core (before ++ text) := by
  simpa using spaced.widen starts (show Text.allBlank [] = true from rfl)

theorem Sentence.widen {text before after : Text} {e : DiceExpr} (sentence : Sentence .atom text e)
    (starts : before.allBlank = true) (ends : after.allBlank = true) :
    Sentence .atom (before ++ (text ++ after)) e := by
  cases sentence with
  | dice term spaced => exact .dice term (spaced.widen starts ends)
  | number numeral value spaced => exact .number numeral value (spaced.widen starts ends)
  | group inner spaced => exact .group inner (spaced.widen starts ends)

namespace Template

open Text

variable {text : Text}

theorem unmarked {level : Level} {shape : Expr (Option Dice)} (fresh : '&' ∉ text)
    (closed : shape.leaves.count none = 0)
    (sentence : ∀ operand, Sentence level text (shape.filled operand)) :
    Template level text shape where
  places := by rw [closed, List.count_eq_zero.mpr fresh]
  sentence _ := by
    rw [filledWith_of_not_mem fresh]
    exact sentence _

theorem binary {level left right : Level} {a b : Expr (Option Dice)} {op : Op} {s mid t : Text}
    (first : Template left s a) (fresh : '&' ∉ mid) (second : Template right t b)
    (joins : ∀ {s t : Text} {a b : DiceExpr}, Sentence left s a → Sentence right t b →
      Sentence level (s ++ (mid ++ t)) (.binary op a b)) :
    Template level (s ++ (mid ++ t)) (.binary op a b) where
  places := by
    rw [Expr.leaves, List.count_append, first.places, second.places, List.count_append,
      List.count_append, List.count_eq_zero.mpr fresh, Nat.zero_add]
  sentence atom := by
    rw [filledWith_append, filledWith_append, filledWith_of_not_mem fresh]
    exact joins (first.sentence atom) (second.sentence atom)

theorem signed {a b : Expr (Option Dice)} {sign : Text} (inner : Template .unary text a)
    (fresh : '&' ∉ sign) (leaves : b.leaves = a.leaves)
    (signs : ∀ {t : Text} {operand : DiceExpr}, Sentence .unary t (a.filled operand) →
      Sentence .unary (sign ++ t) (b.filled operand)) : Template .unary (sign ++ text) b where
  places := by
    rw [leaves, inner.places, List.count_append, List.count_eq_zero.mpr fresh, Nat.zero_add]
  sentence atom := by
    rw [filledWith_append, filledWith_of_not_mem fresh]
    exact signs (inner.sentence atom)

theorem hole {before after : Text} (starts : before.allBlank = true)
    (ends : after.allBlank = true) : Template .atom (before ++ ('&' :: after)) (.leaf none) := by
  have first : '&' ∉ before := not_mem_of_allBlank (by decide) starts
  have last : '&' ∉ after := not_mem_of_allBlank (by decide) ends
  constructor
  · rw [List.count_append, List.count_cons_self, List.count_eq_zero.mpr first,
      List.count_eq_zero.mpr last]
    rfl
  · intro new operand atom
    rw [filledWith_append, filledWith_mark, filledWith_of_not_mem first, filledWith_of_not_mem last]
    exact atom.widen starts ends

theorem group {shape : Expr (Option Dice)} {before after : Text} (inner : Template .sum text shape)
    (starts : before.allBlank = true) (ends : after.allBlank = true) :
    Template .atom (before ++ ('(' :: (text ++ [')']) ++ after)) shape := by
  have first : '&' ∉ before := not_mem_of_allBlank (by decide) starts
  have last : '&' ∉ after := not_mem_of_allBlank (by decide) ends
  constructor
  · simp [List.count_append, List.count_eq_zero.mpr first, List.count_eq_zero.mpr last,
      inner.places]
  · intro new operand atom
    have filled : filledWith (before ++ ('(' :: (text ++ [')']) ++ after)) new =
        before ++ ('(' :: (text.filledWith new ++ [')']) ++ after) := by
      rw [filledWith_append, filledWith_of_not_mem first, filledWith_append,
        filledWith_of_not_mem last, filledWith_cons (by decide), filledWith_append]
      rfl
    rw [filled]
    exact .group (inner.sentence atom) ⟨before, after, starts, ends, rfl⟩

end Template

open Text

theorem Nested.split {text s t : Text} (nested : Nested s) (whole : text.filledWith room = s ++ t) :
    ∃ first second, text = first ++ second ∧ first.filledWith room = s ∧
      second.filledWith room = t :=
  split_filledWith whole nested.closed

theorem Spaced.split {core mid text t : Text} (spaced : Spaced core mid) (unopened : '(' ∉ core)
    (whole : text.filledWith room = mid ++ t) :
    ∃ rest, text = mid ++ rest ∧ '&' ∉ mid ∧ rest.filledWith room = t := by
  have fresh : '(' ∉ mid := spaced.not_mem (by decide) unopened
  obtain ⟨first, rest, rfl, same, others⟩ := split_filledWith whole fun before after split =>
    absurd (split ▸ List.mem_append_right before List.mem_cons_self) fresh
  obtain ⟨unmarked, rfl⟩ := unmarked_of_filledWith same fresh
  exact ⟨rest, rfl, unmarked, others⟩

theorem Op.not_opening (op : Op) : '(' ∉ [op.symbol] := by cases op <;> decide

theorem Template.of_group {inner text : Text} {e : DiceExpr} (sentence : Sentence .sum inner e)
    (whole : text.filledWith room = '(' :: (inner ++ [')']))
    (ih : ∀ {text : Text}, text.filledWith room = inner → ∃ shape, Template .sum text shape) :
    text = ['&'] ∨ ∃ within shape, text = '(' :: (within ++ [')']) ∧
      Template .sum within shape := by
  cases text with
  | nil => cases whole
  | cons c cs =>
    by_cases mark : c = '&'
    · subst mark
      -- A sentence closes no parenthesis that it does not open, so that of the zero is the last
      -- character.
      have zero : '0' :: ')' :: filledWith cs room = inner ++ [')'] := (List.cons.inj whole).2
      rcases List.append_eq_cons_iff.mp zero.symm with ⟨_, other⟩ | ⟨rest, rfl, close⟩
      · cases other
      · rcases List.append_eq_cons_iff.mp close.symm with ⟨rfl, done⟩ | ⟨others, rfl, _⟩
        · obtain ⟨_, rfl⟩ := unmarked_of_filledWith (List.cons.inj done).2.symm (by decide)
          exact .inl rfl
        · exact absurd (sentence.nested.opened ['0'] others rfl) (by decide)
    · rw [filledWith_cons mark] at whole
      obtain ⟨rfl, rest⟩ := List.cons.inj whole
      obtain ⟨within, close, rfl, same, behind⟩ := sentence.nested.split rest
      obtain ⟨_, rfl⟩ := unmarked_of_filledWith behind (by decide)
      obtain ⟨shape, template⟩ := ih same
      exact .inr ⟨within, shape, rfl, template⟩

theorem Sentence.template {level : Level} {filled text : Text} {e : DiceExpr}
    (sentence : Sentence level filled e) (same : text.filledWith room = filled) :
    ∃ shape, Template level text shape := by
  -- The text is cut where the sentence is: each part closes its parentheses, so no cut goes through
  -- a zero.
  induction sentence generalizing text with
  | ofProduct _ ih =>
    obtain ⟨shape, places, reads⟩ := ih same
    exact ⟨shape, places, fun atom => .ofProduct (reads atom)⟩
  | ofUnary _ ih =>
    obtain ⟨shape, places, reads⟩ := ih same
    exact ⟨shape, places, fun atom => .ofUnary (reads atom)⟩
  | ofAtom _ ih =>
    obtain ⟨shape, places, reads⟩ := ih same
    exact ⟨shape, places, fun atom => .ofAtom (reads atom)⟩
  | @sum _ _ _ op _ _ left kind spaced _ ihLeft ihRight =>
    obtain ⟨first, others, rfl, start, behind⟩ := left.nested.split same
    obtain ⟨second, rfl, fresh, rest⟩ := spaced.split op.not_opening behind
    obtain ⟨a, before⟩ := ihLeft start
    obtain ⟨b, after⟩ := ihRight rest
    exact ⟨.binary op a b, before.binary fresh after fun s t => .sum s kind spaced t⟩
  | @product _ _ _ op _ _ left kind spaced _ ihLeft ihRight =>
    obtain ⟨first, others, rfl, start, behind⟩ := left.nested.split same
    obtain ⟨second, rfl, fresh, rest⟩ := spaced.split op.not_opening behind
    obtain ⟨a, before⟩ := ihLeft start
    obtain ⟨b, after⟩ := ihRight rest
    exact ⟨.binary op a b, before.binary fresh after fun s t => .product s kind spaced t⟩
  | minus sign _ ih =>
    obtain ⟨rest, rfl, fresh, others⟩ := sign.split (by decide) same
    obtain ⟨shape, inner⟩ := ih others
    exact ⟨.neg shape, inner.signed fresh rfl fun reads => .minus sign reads⟩
  | plus sign _ ih =>
    obtain ⟨rest, rfl, fresh, others⟩ := sign.split (by decide) same
    obtain ⟨shape, inner⟩ := ih others
    exact ⟨shape, inner.signed fresh rfl fun reads => .plus sign reads⟩
  | @dice core _ d term spaced =>
    have unopened : '(' ∉ core := not_mem_of_all term.termChars (by decide)
    obtain ⟨fresh, rfl⟩ := unmarked_of_filledWith same (spaced.not_mem (by decide) unopened)
    exact ⟨.leaf (some d), .unmarked fresh (by simp [Expr.leaves]) fun _ => .dice term spaced⟩
  | @number core _ n numeral value spaced =>
    have unopened : '(' ∉ core := not_mem_of_all numeral.termChars (by decide)
    obtain ⟨fresh, rfl⟩ := unmarked_of_filledWith same (spaced.not_mem (by decide) unopened)
    exact ⟨.number n, .unmarked fresh rfl fun _ => .number numeral value spaced⟩
  | @group inner _ e sentence spaced ih =>
    obtain ⟨before, after, starts, ends, rfl⟩ := spaced
    have unopened {text : Text} (blank : text.allBlank = true) : '(' ∉ text :=
      not_mem_of_allBlank (by decide) blank
    obtain ⟨first, others, rfl, start, rest⟩ := (nested_of_allBlank starts).split same
    obtain ⟨_, rfl⟩ := unmarked_of_filledWith start (unopened starts)
    obtain ⟨mid, last, rfl, held, behind⟩ := (sentence.nested.grouped sentence).split rest
    obtain ⟨_, rfl⟩ := unmarked_of_filledWith behind (unopened ends)
    rcases Template.of_group sentence held ih with rfl | ⟨within, shape, rfl, template⟩
    · exact ⟨.leaf none, .hole starts ends⟩
    · exact ⟨shape, template.group starts ends⟩

namespace Text

theorem mem_filledWith {c : Char} (other : c ≠ '&') {text : Text} (member : c ∈ text) (new : Text) :
    c ∈ text.filledWith new :=
  List.mem_flatMap.mpr ⟨c, member, by simp [other]⟩

theorem not_mem_filledWith {c : Char} {text new : Text} (fresh : c ∉ text) (foreign : c ∉ new) :
    c ∉ text.filledWith new := by
  intro member
  obtain ⟨d, inside, found⟩ := List.mem_flatMap.mp member
  split at found
  · exact foreign found
  · exact fresh (List.mem_singleton.mp found ▸ inside)

theorem count_flatMap_lowerChar {m : Char} (caseless : isCaseless m = true) (text : Text) :
    (text.flatMap lowerChar).count m = text.count m := by
  induction text with
  | nil => rfl
  | cons c cs ih =>
    rw [List.flatMap_cons, List.count_append, ih, ← List.singleton_append (l := cs),
      List.count_append]
    congr 1
    by_cases same : c = m
    · rw [same, lowerChar_of_isCaseless caseless]
    · have absent : m ∉ lowerChar c := fun member => same (eq_of_mem_lowerChar caseless member)
      rw [List.count_eq_zero.mpr absent, List.count_singleton, if_neg (by simpa using same)]

theorem lowercase_filledWith {text new : Text} (sigmaless : 'Σ' ∉ text) (plain : new.Plain) :
    (text.filledWith new).lowercase = filledWith (text.flatMap lowerChar) new := by
  have foreign : 'Σ' ∉ new := fun member => absurd (plain 'Σ' member) (by decide)
  have small : new.flatMap lowerChar = new := by
    rw [← lowerAfter_eq_flatMap foreign []]
    exact lowercase_of_plain plain
  have mark : lowerChar '&' = ['&'] := by decide
  rw [lowercase, lowerAfter_eq_flatMap (not_mem_filledWith sigmaless foreign)]
  clear sigmaless
  induction text with
  | nil => rfl
  | cons c cs ih =>
    by_cases same : c = '&'
    · rw [same, filledWith_mark, List.flatMap_append, small, ih, List.flatMap_cons, mark,
        List.singleton_append, filledWith_mark]
    · have absent : '&' ∉ lowerChar c := fun member => same (eq_of_mem_lowerChar (by decide) member)
      rw [filledWith_cons same, List.flatMap_cons, ih, List.flatMap_cons, filledWith_append,
        filledWith_of_not_mem absent]

end Text

/-- A text that is read with zeros at its marks is read with any operand at them, and the expression
is the same but for that operand. -/
theorem DiceExpr.parse_filledWith {text : Text} {e : DiceExpr}
    (reads : DiceExpr.parse (text.filledWith room) = .ok e) :
    ∃ shape : Expr (Option Dice), shape.leaves.count none = text.count '&' ∧
      shape.filled (.number ⟨0, by decide, by decide⟩) = e ∧
      ∀ {new : Text} {operand : DiceExpr}, new.Plain → Sentence .atom new operand →
        DiceExpr.parse (text.filledWith new) = .ok (shape.filled operand) := by
  have sentence := DiceExpr.sentence_of_parse reads
  have sigmaless : 'Σ' ∉ text := fun member =>
    sigma_not_mem sentence.exprChars (mem_filledWith (by decide) member room)
  have lower : room.Plain := forall_of_all (by decide)
  rw [lowercase_filledWith sigmaless lower] at sentence
  obtain ⟨shape, template⟩ := sentence.template rfl
  have filled {new : Text} {operand : DiceExpr} (plain : new.Plain)
      (atom : Sentence .atom new operand) :
      DiceExpr.parse (text.filledWith new) = .ok (shape.filled operand) := by
    apply DiceExpr.parse_of_sentence
    rw [lowercase_filledWith sigmaless plain]
    exact template.sentence atom
  have zero : Sentence .atom room (.number ⟨0, by decide, by decide⟩) :=
    .grouped (.toSum (.number .zero rfl (.refl _)))
  refine ⟨shape, ?_, ?_, filled⟩
  · rw [template.places, count_flatMap_lowerChar (by decide)]
  · exact Except.ok.inj ((filled lower zero).symm.trans reads)

end Tabletop
