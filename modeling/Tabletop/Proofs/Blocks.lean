import Tabletop.Critical.Block
import Tabletop.Proofs.Composing.Clauses
import Tabletop.Proofs.Scanning

/-! Where critical blocks stop. The brace that closes a block is the last character that is looked
at, so a text that closes none can be written behind any other without changing the blocks of
either. -/
namespace Tabletop

variable {tail : Text}

theorem Sign.leading_append {text : Text} (ends : ∃ c ∈ text, isSignChar c = false) (tail : Text) :
    leading (text ++ tail) = (leading text).map fun (sign, rest) => (sign, rest ++ tail) := by
  obtain ⟨c, member, other⟩ := ends
  match text, member with
  | [d], member =>
    obtain rfl := List.mem_singleton.mp member
    rw [List.singleton_append, leading_of_not_sign other, leading_of_not_sign other, List.map_nil]
  | d :: x :: rest, _ =>
    cases isSign : isSignChar d with
    | false =>
        rw [List.cons_append, leading_of_not_sign isSign, leading_of_not_sign isSign, List.map_nil]
    | true =>
      rcases eq_of_isSignChar isSign with rfl | rfl | rfl | rfl <;> by_cases equal : x = '=' <;>
        simp [leading, equal]

theorem signedValue_append {close : Char} (other : Sign.isSignChar close = false) {text : Text}
    (closed : close ∈ text) (tail : Text) :
    signedValue close (text ++ tail) = (signedValue close text).map fun (found, rest) =>
      (found, rest ++ tail) := by
  have inside : ∀ candidate ∈ Sign.leading text, close ∈ candidate.2 := by
    intro (sign, rest) leads
    rw [Sign.eq_append_of_mem_leading leads] at closed
    refine (List.mem_append.mp closed).resolve_left fun member => ?_
    rw [Sign.isSignChar_of_mem_symbol member] at other
    contradiction
  simp only [signedValue, Sign.leading_append ⟨close, closed, other⟩]
  generalize Sign.leading text = candidates at inside
  induction candidates with
  | nil => rfl
  | cons candidate others ih =>
    obtain ⟨value, behind⟩ := Text.takeWhile_append_of_mem (p := (· ≠ close)) (by simp)
      (inside candidate List.mem_cons_self) tail
    have later := ih fun other member => inside other (List.mem_cons_of_mem _ member)
    simp only [List.map_cons, List.findSome?_cons, value, behind, later]
    cases (candidate.2.takeWhile (· ≠ close)).isEmpty <;> rfl

namespace CriticalBlock

def closedValue : Reader (Sign × Text) := fun text => do
  let (found, rest) ← signedValue '\x7d' text
  let (_, rest) ← Reader.char '\x7d' rest
  some (found, rest)

theorem mem_of_closedValue {text : Text} {reading : (Sign × Text) × Text}
    (reads : closedValue text = some reading) : '\x7d' ∈ text := by
  simp only [closedValue, Option.bind_eq_bind, Option.bind_eq_some_iff] at reads
  obtain ⟨⟨⟨sign, value⟩, behind⟩, found, _, closes, _⟩ := reads
  have split := (Comparator.eq_of_signedValue found).1
  dsimp only at closes
  rw [split, Reader.char_eq_some_iff.mp closes]
  simp

theorem closedValue_append {text : Text} (closed : '\x7d' ∈ text) (tail : Text) :
    closedValue (text ++ tail) = (closedValue text).map fun (found, rest) =>
      (found, rest ++ tail) := by
  simp only [closedValue, signedValue_append (show Sign.isSignChar '\x7d' = false by decide) closed]
  cases found : signedValue '\x7d' text with
  | none => rfl
  | some reading =>
    obtain ⟨⟨sign, value⟩, rest⟩ := reading
    obtain ⟨split, _, fresh⟩ := Comparator.eq_of_signedValue found
    have unsigned : '\x7d' ∉ sign.symbol := fun member => by
      have isSign := Sign.isSignChar_of_mem_symbol member
      contradiction
    rw [split, List.mem_append, List.mem_append] at closed
    have closes := (closed.resolve_left unsigned).resolve_left fresh
    cases rest with
    | nil => cases closes
    | cons c rest =>
      simp only [Option.map_some, Option.bind_eq_bind, Option.bind_some, Reader.char,
        List.cons_append]
      split <;> rfl

/-- What a block reads behind its brace and star. -/
def inside (onNaturalDie : Bool) : Reader CriticalBlock
  | c :: k :: ':' :: rest =>
    if c = 'c' || c = 'C' then do
      let kind ← kindOf? k
      let ((sign, value), rest) ← closedValue rest
      some (⟨kind, sign, value, onNaturalDie⟩, rest)
    else none
  | _ => none

theorem reader_eq (text : Text) :
    reader text = (Reader.char '\x7b' text).bind fun (_, rest) =>
      inside (Reader.optional (Reader.char '*') rest).1.isNone
        (Reader.optional (Reader.char '*') rest).2 := by
  unfold reader inside closedValue
  cases Reader.char '\x7b' text with
  | none => rfl
  | some opened =>
    simp only [Option.bind_eq_bind, Option.bind_some]
    generalize Reader.optional (Reader.char '*') opened.2 = starred
    obtain ⟨star, rest⟩ := starred
    rcases rest with _ | ⟨c, _ | ⟨k, _ | ⟨x, rest⟩⟩⟩
    · rfl
    · rfl
    · rfl
    · by_cases colon : x = ':'
      · subst colon
        simp only [Option.bind_assoc, Option.bind_some]
      · simp [colon]

theorem inside_of_ne {c : Char} (other : c ≠ 'c' ∧ c ≠ 'C') (onNaturalDie : Bool) (rest : Text) :
    inside onNaturalDie (c :: rest) = none := by
  unfold inside
  split
  · next same =>
    cases same
    simp [other]
  · rfl

theorem inside_of_no_kind {k : Char} (other : kindOf? k = none) (onNaturalDie : Bool) (c : Char)
    (rest : Text) : inside onNaturalDie (c :: k :: rest) = none := by
  unfold inside
  split
  · next same =>
    cases same
    simp [other]
  · rfl

theorem mem_of_inside {onNaturalDie : Bool} {start : Text} {reading : CriticalBlock × Text}
    (reads : inside onNaturalDie start = some reading) : '\x7d' ∈ start := by
  unfold inside at reads
  split at reads
  · split at reads
    · simp only [Option.bind_eq_bind, Option.bind_eq_some_iff] at reads
      obtain ⟨_, _, _, closed, _⟩ := reads
      simp [mem_of_closedValue closed]
    · cases reads
  · cases reads

theorem inside_append {text : Text} (closed : '\x7d' ∈ text) (onNaturalDie : Bool) (tail : Text) :
    inside onNaturalDie (text ++ tail) = (inside onNaturalDie text).map fun (block, rest) =>
      (block, rest ++ tail) := by
  -- A block has its letters before the brace, so the brace is not among the first two characters.
  match text with
  | [c] =>
    obtain rfl := List.mem_singleton.mp closed
    rw [List.singleton_append, inside_of_ne (by decide), inside_of_ne (by decide)]
    rfl
  | [c, k] =>
    rcases List.mem_pair.mp closed with rfl | rfl
    · rw [List.cons_append, inside_of_ne (by decide), inside_of_ne (by decide)]
      rfl
    · rw [List.cons_append, List.cons_append, inside_of_no_kind (by decide),
        inside_of_no_kind (by decide)]
      rfl
  | c :: k :: x :: rest =>
    by_cases colon : x = ':'
    · subst colon
      simp only [List.cons_append, inside]
      split
      · next letter =>
        cases known : kindOf? k with
        | none => rfl
        | some kind =>
          have closed : '\x7d' ∈ rest := by
            simp only [List.mem_cons] at closed
            rcases closed with rfl | rfl | colon | closed
            · simp at letter
            · cases known
            · cases colon
            · exact closed
          rw [closedValue_append closed]
          cases closedValue rest <;> rfl
      · rfl
    · simp [inside, colon]

theorem mem_of_reader {start : Text} {reading : CriticalBlock × Text}
    (reads : reader start = some reading) : '\x7d' ∈ start := by
  rw [reader_eq] at reads
  obtain ⟨⟨_, behind⟩, opens, inner⟩ := Option.bind_eq_some_iff.mp reads
  have closes := mem_of_inside inner
  rw [Reader.char_eq_some_iff.mp opens]
  refine List.mem_cons_of_mem _ ?_
  unfold Reader.optional at closes
  split at closes
  · next starred =>
    rw [Reader.char_eq_some_iff.mp starred]
    exact List.mem_cons_of_mem _ closes
  · exact closes

theorem reader_append {text : Text} (closed : '\x7d' ∈ text) (tail : Text) :
    reader (text ++ tail) = (reader text).map fun (block, rest) => (block, rest ++ tail) := by
  cases text with
  | nil => cases closed
  | cons c cs =>
    rw [reader_eq, reader_eq, List.cons_append]
    by_cases opens : c = '\x7b'
    · subst opens
      have closed : '\x7d' ∈ cs := by simpa using closed
      simp only [Reader.char_self, Option.bind_some]
      cases cs with
      | nil => cases closed
      | cons d ds =>
        by_cases star : d = '*'
        · subst star
          simp only [List.cons_append, Reader.optional, Reader.char_self]
          exact inside_append (by simpa using closed) _ tail
        · simp only [List.cons_append, Reader.optional, Reader.char, star, if_false]
          exact inside_append closed _ tail
    · simp [Reader.char, opens]

theorem reader_spares (unclosed : '\x7d' ∉ tail) : reader.Spares tail :=
  Reader.spares_of_mem (fun _ _ => mem_of_reader) unclosed fun _ closed => reader_append closed tail

theorem strip_of_not_mem {text : Text} (unclosed : '\x7d' ∉ text) : strip text = text :=
  Reader.substituted_of_not_mem (fun _ _ => mem_of_reader) _ unclosed

theorem strip_append (unclosed : '\x7d' ∉ tail) (text : Text) :
    strip (text ++ tail) = strip text ++ tail := by
  have untouched := strip_of_not_mem unclosed
  rw [strip, Reader.erased] at untouched ⊢
  rw [Reader.substituted_append (reader_spares unclosed), untouched]
  rfl

variable {text rest : Text} {block : CriticalBlock}

def headChars : List Char := ['*', 'c', 'C', 's', 'S', 'f', 'F', 'ſ', ':']

theorem eq_of_closedValue {value : Text} {sign : Sign}
    (reads : closedValue text = some ((sign, value), rest)) :
    text = sign.symbol ++ (value ++ '\x7d' :: rest) ∧ value ≠ [] ∧ '\x7d' ∉ value := by
  simp only [closedValue, Option.bind_eq_bind, Option.bind_eq_some_iff, Option.some.injEq,
    Prod.mk.injEq, Prod.exists] at reads
  obtain ⟨_, _, behind, found, _, _, closes, ⟨rfl, rfl⟩, rfl⟩ := reads
  obtain ⟨split, nonempty, fresh⟩ := Comparator.eq_of_signedValue found
  rw [Reader.char_eq_some_iff.mp closes] at split
  exact ⟨split, nonempty, fresh⟩

theorem mem_headChars_of_kindOf? {c : Char} {kind : CriticalKind} (known : kindOf? c = some kind) :
    c ∈ headChars := by
  unfold kindOf? at known
  split at known
  · next small => rcases (by simpa using small : c = 's' ∨ c = 'S') with rfl | rfl <;> decide
  · split at known
    · next small => rcases (by simpa using small : (c = 'f' ∨ c = 'F') ∨ c = 'ſ') with (rfl | rfl)
        | rfl <;> decide
    · cases known

theorem eq_of_inside {onNaturalDie : Bool} (reads : inside onNaturalDie text = some (block, rest)) :
    ∃ head, (∀ c ∈ head, c ∈ headChars) ∧
      text = head ++ (block.sign.symbol ++ (block.value ++ '\x7d' :: rest)) ∧
      '\x7d' ∉ block.value := by
  unfold inside at reads
  split at reads
  · next c k behind =>
    split at reads
    · next letter =>
      simp only [Option.bind_eq_bind, Option.bind_eq_some_iff, Option.some.injEq, Prod.mk.injEq,
        Prod.exists] at reads
      obtain ⟨kind, known, sign, value, _, found, rfl, rfl⟩ := reads
      obtain ⟨rfl, _, fresh⟩ := eq_of_closedValue found
      have first : c ∈ headChars := by
        rcases (by simpa using letter : c = 'c' ∨ c = 'C') with rfl | rfl <;> decide
      refine ⟨[c, k, ':'], ?_, rfl, fresh⟩
      simp [first, mem_headChars_of_kindOf? known, show ':' ∈ headChars by decide]
    · cases reads
  · cases reads

theorem eq_of_reader (reads : reader text = some (block, rest)) :
    ∃ head, (∀ c ∈ head, c ∈ headChars) ∧
      text = '\x7b' :: (head ++ (block.sign.symbol ++ (block.value ++ '\x7d' :: rest))) ∧
      '\x7d' ∉ block.value := by
  rw [reader_eq] at reads
  obtain ⟨⟨_, behind⟩, opens, inner⟩ := Option.bind_eq_some_iff.mp reads
  rw [Reader.char_eq_some_iff.mp opens]
  obtain ⟨head, known, split, fresh⟩ := eq_of_inside inner
  unfold Reader.optional at split
  split at split
  · next starred =>
    dsimp only at split
    rw [Reader.char_eq_some_iff.mp starred, split]
    exact ⟨'*' :: head, by simpa [show '*' ∈ headChars by decide] using known, rfl, fresh⟩
  · dsimp only at split
    rw [split]
    exact ⟨head, known, rfl, fresh⟩

end CriticalBlock
end Tabletop
