import Tabletop.Proofs.Reading.Printing
import Tabletop.Proofs.Resolving.References

/-! Expressions written out with references in them. An exchange of what a reader finds goes through
the text of an expression leaf by leaf, as long as the reader takes none of the parentheses that the
printer writes. -/
namespace Tabletop

theorem Reader.OpensWith.substituted_append {reader : Reader α} {m : Char}
    (opens : reader.OpensWith m) {text : Text}
    (fresh : m ∉ text) (exchange : α → Text → Text) (rest : Text) :
    reader.substituted exchange (text ++ rest) = text ++ reader.substituted exchange rest := by
  rw [substituted, opens.scan_append fresh, List.flatMap_append, List.flatMap_map]
  simp [substituted]

def Follows (tail : Text) : Prop := ∀ c ∈ tail.head?, c = ' ' ∨ c = ')'

theorem follows_cons {c : Char} (ends : c = ' ' ∨ c = ')') (tail : Text) : Follows (c :: tail) := by
  intro d member
  cases member
  exact ends

def StartsOperand (text : Text) : Prop :=
  ∃ c cs, text = c :: cs ∧ isNameStart c = false ∧ isBlank c = false

theorem parenthesisedName_of_startsOperand {text : Text} (starts : StartsOperand text) :
    parenthesisedName ('(' :: text) = none := by
  obtain ⟨c, cs, rfl, unnamed, visible⟩ := starts
  simp [parenthesisedName, Reader.char_self, Text.trimStart_cons visible, unnamed]

theorem startsOperand_digit {text : Text} (nonempty : text ≠ [])
    (digits : ∀ c ∈ text, c = '-' ∨ c.isDigit = true) : StartsOperand text := by
  cases text with
  | nil => contradiction
  | cons c cs =>
    refine ⟨c, cs, rfl, ?_⟩
    rcases digits c List.mem_cons_self with rfl | digit
    · decide
    · exact ⟨(digit_facts digit).1, (digit_facts digit).2.1⟩

namespace Expr

variable {Leaf : Type} {leafText : Leaf → Text}

theorem startsOperand_grouped (text : Text) : StartsOperand (grouped text) :=
  ⟨'(', text ++ [')'], rfl, by decide⟩

theorem startsOperand_text {e : Expr Leaf} (leaves : ∀ x ∈ e.leaves, StartsOperand (leafText x)) :
    StartsOperand (e.text leafText) := by
  induction e with
  | number n => exact startsOperand_digit n.text_ne_nil fun c member => n.isDigit_of_mem_text member
  | leaf x => exact leaves x List.mem_cons_self
  | neg e => exact ⟨'-', _, rfl, by decide⟩
  | binary op a b ih _ =>
    have left : StartsOperand
        (if a.rootOp?.any fun child => child.isMultiplicative != op.isMultiplicative
          then grouped (a.text leafText) else a.text leafText) := by
      split
      · exact startsOperand_grouped _
      · exact ih fun x member => leaves x (List.mem_append_left _ member)
    obtain ⟨c, cs, first, facts⟩ := left
    exact ⟨c, _, by rw [Expr.text, first, List.cons_append], facts⟩

end Expr

/-- Before what follows an operand the exchange makes the one text of the other. -/
def Passes (reader : Reader α) (exchange : α → Text → Text) (text new : Text) : Prop :=
  ∀ tail, Follows tail →
    reader.substituted exchange (text ++ tail) = new ++ reader.substituted exchange tail

section Passing

variable {reader : Reader α} {m : Char} {exchange : α → Text → Text} {text new : Text}

theorem Passes.whole (passes : Passes reader exchange text new) :
    reader.substituted exchange text = new := by
  have all := passes [] fun _ member => by cases member
  rw [List.append_nil] at all
  exact all.trans (List.append_nil new)

theorem passes_of_not_mem (opens : reader.OpensWith m) (fresh : m ∉ text) :
    Passes reader exchange text text :=
  fun tail _ => opens.substituted_append fresh exchange tail

theorem Passes.after (passes : Passes reader exchange text new) (opens : reader.OpensWith m)
    {before : Text} (fresh : m ∉ before) :
    Passes reader exchange (before ++ text) (before ++ new) := by
  intro tail follows
  rw [List.append_assoc, opens.substituted_append fresh, passes tail follows, List.append_assoc]

theorem Passes.append {more other : Text} (first : Passes reader exchange text new)
    (second : Passes reader exchange more other) (apart : ∀ tail, Follows (more ++ tail)) :
    Passes reader exchange (text ++ more) (new ++ other) := by
  intro tail follows
  rw [List.append_assoc, first _ (apart tail), second tail follows, List.append_assoc]

theorem Passes.ite {p : Prop} [Decidable p] {more other : Text}
    (first : Passes reader exchange text new) (second : Passes reader exchange more other) :
    Passes reader exchange (if p then text else more) (if p then new else other) := by
  split
  · exact first
  · exact second

theorem Passes.grouped (passes : Passes reader exchange text new) (opens : reader.OpensWith m)
    (unclosed : m ≠ ')') (unread : ∀ tail, reader ('(' :: (text ++ tail)) = none) :
    Passes reader exchange (Expr.grouped text) (Expr.grouped new) := by
  intro tail _
  have close : reader (')' :: tail) = none := opens.of_ne unclosed.symm tail
  calc reader.substituted exchange (Expr.grouped text ++ tail)
    _ = reader.substituted exchange ('(' :: (text ++ ')' :: tail)) := by simp [Expr.grouped]
    _ = '(' :: (new ++ ')' :: reader.substituted exchange tail) := by
      rw [Reader.substituted_cons (unread _), passes _ (follows_cons (.inr rfl) tail),
        Reader.substituted_cons close]
    _ = Expr.grouped new ++ reader.substituted exchange tail := by simp [Expr.grouped]

def printedMarks : List Char := ['-', '+', '*', '/', '\\', ' ', ')']

theorem spaced_symbol_printed (op : Op) : ∀ c ∈ [' ', op.symbol, ' '], c ∈ printedMarks := by
  cases op <;> exact Text.forall_of_all (by decide)

theorem passes_text {Leaf : Type} {leafText newText : Leaf → Text} (opens : reader.OpensWith m)
    (unmarked : m ∉ printedMarks) (digitless : m.isDigit = false)
    (unread : ∀ text, StartsOperand text → reader ('(' :: text) = none) {e : Expr Leaf}
    (starts : ∀ x ∈ e.leaves, StartsOperand (leafText x))
    (leaves : ∀ x ∈ e.leaves, Passes reader exchange (leafText x) (newText x)) :
    Passes reader exchange (e.text leafText) (e.text newText) := by
  have group : ∀ {a : Expr Leaf}, (∀ x ∈ a.leaves, StartsOperand (leafText x)) →
      Passes reader exchange (a.text leafText) (a.text newText) →
      Passes reader exchange (Expr.grouped (a.text leafText)) (Expr.grouped (a.text newText)) := by
    intro a starts passes
    refine passes.grouped opens (fun same => unmarked (by rw [same]; decide)) fun tail =>
      unread _ ?_
    obtain ⟨c, cs, first, facts⟩ := Expr.startsOperand_text starts
    exact ⟨c, cs ++ tail, by rw [first, List.cons_append], facts⟩
  induction e with
  | number n =>
    refine passes_of_not_mem opens fun member => ?_
    rcases n.isDigit_of_mem_text member with rfl | digit
    · exact unmarked (by decide)
    · rw [digit] at digitless
      cases digitless
  | leaf x => exact leaves x List.mem_cons_self
  | neg e ih =>
    have inner := ih starts leaves
    have sign : m ∉ ['-'] := fun member => unmarked (by rw [List.mem_singleton.mp member]; decide)
    simp only [Expr.text]
    exact (inner.ite (group (a := e) starts inner)).after opens sign
  | binary op a b ihA ihB =>
    have startsA : ∀ x ∈ a.leaves, StartsOperand (leafText x) := fun x member =>
      starts x (List.mem_append_left _ member)
    have startsB : ∀ x ∈ b.leaves, StartsOperand (leafText x) := fun x member =>
      starts x (List.mem_append_right _ member)
    have left := ihA startsA fun x member => leaves x (List.mem_append_left _ member)
    have right := ihB startsB fun x member => leaves x (List.mem_append_right _ member)
    have sign : m ∉ [' ', op.symbol, ' '] :=
      fun member => unmarked (spaced_symbol_printed op m member)
    simp only [Expr.text]
    refine ((group startsA left).ite left).append
      (((group startsB right).ite right).after opens sign) fun tail => ?_
    exact follows_cons (.inl rfl) _

end Passing

end Tabletop
