import Tabletop.Proofs.Extracting.LeadingToken
import Tabletop.Proofs.Extracting.Words

/-! Lines that are one token. The token takes a line word by word: a further word must start with
operators, and operators that are a word by themselves take the next word with them, whatever it
is. -/
namespace Tabletop

namespace Text

theorem words_of_visible {word : Text} (nonempty : word ≠ [])
    (visible : ∀ c ∈ word, isBlank c = false) : words word = [word] := by
  rw [words, List.splitOnP_eq_singleton fun c member => by simp [visible c member]]
  simp [nonempty]

theorem words_append {word after : Text} (nonempty : word ≠ [])
    (visible : ∀ c ∈ word, isBlank c = false)
    (apart : ∀ c ∈ after.head?, isBlank c = true) :
    words (word ++ after) = word :: words after := by
  cases after with
  | nil => rw [List.append_nil, words_of_visible nonempty visible, words_nil]
  | cons b after =>
    have blank : isBlank b = true := apart b rfl
    rw [words_append_blank blank, words_of_visible nonempty visible, words_cons_blank blank,
      List.singleton_append]

theorem exists_word {text word : Text} {others : List Text} (parts : words text = word :: others) :
    ∃ after, text.trimStart = word ++ after ∧ word ≠ [] ∧ (∀ c ∈ word, isBlank c = false) ∧
      (∀ c ∈ after.head?, isBlank c = true) ∧ words after = others := by
  obtain ⟨first, after, split, visible, apart⟩ : ∃ first after, text.trimStart = first ++ after ∧
      (∀ c ∈ first, isBlank c = false) ∧ ∀ c ∈ after.head?, isBlank c = true := by
    refine ⟨_, _, (List.takeWhile_append_dropWhile (p := (!isBlank ·))).symm,
      fun c member => ?_, fun c member => ?_⟩
    · simpa using List.mem_takeWhile_imp member
    · have stops := List.head?_dropWhile_not (!isBlank ·) text.trimStart
      rw [member] at stops
      simpa using stops
  rw [← words_trimStart, split] at parts
  have nonempty : first ≠ [] := by
    rintro rfl
    cases after with
    | nil => cases parts
    | cons c after =>
      have seen := visible_of_trimStart split
      rw [apart c rfl] at seen
      cases seen
  rw [words_append nonempty visible apart] at parts
  obtain ⟨rfl, behind⟩ := List.cons.inj parts
  exact ⟨after, split, nonempty, visible, apart, behind⟩

end Text

namespace Reader

/-- Whether a token takes all the words behind it. -/
def goesOn : List Text → Bool
  | [] => true
  | [word] => word.head?.any isJoint && (!word.all isJoint || decide (1 < word.length))
  | word :: next :: words =>
    word.head?.any isJoint && if word.all isJoint then goesOn words else goesOn (next :: words)

theorem solid_append {word after : Text} (nonempty : word ≠ [])
    (visible : ∀ c ∈ word, isBlank c = false)
    (apart : ∀ c ∈ after.head?, isBlank c = true) : solid (word ++ after) = some ((), after) := by
  obtain ⟨c, cs, rfl⟩ := List.exists_cons_of_ne_nil nonempty
  have seen : isBlank c = false := visible c List.mem_cons_self
  have others : ∀ d ∈ cs, (!isBlank d) = true := fun d member => by
    simpa using visible d (List.mem_cons_of_mem c member)
  have stops : (cs ++ after).dropWhile (!isBlank ·) = after :=
    (Text.span_append others fun b first => by simp [apart b first]).2
  simp [solid, seen, stops]

theorem solid_trimStart {text word : Text} {others : List Text}
    (parts : text.words = word :: others) :
    ∃ after, solid text.trimStart = some ((), after) ∧ after.words = others := by
  obtain ⟨after, split, nonempty, visible, apart, behind⟩ := Text.exists_word parts
  exact ⟨after, by rw [split, solid_append nonempty visible apart], behind⟩

theorem solid_trimStart_of_blank {text : Text} (none : text.words = []) :
    solid text.trimStart = .none := by
  have blank : text.trimStart = [] :=
    List.dropWhile_eq_nil_iff.mpr (List.all_eq_true.mp (Text.words_eq_nil_iff.mp none))
  rw [blank]
  rfl

section Word

variable {text word after : Text}

theorem joinedWord_of_unjoined (split : text.trimStart = word ++ after) (nonempty : word ≠ [])
    (unjoined : word.head?.any isJoint = false) : joinedWord text = none := by
  obtain ⟨c, cs, rfl⟩ := List.exists_cons_of_ne_nil nonempty
  have other : isJoint c = false := unjoined
  simp [joinedWord, split, other]

theorem joinedWord_of_joints (split : text.trimStart = word ++ after) (nonempty : word ≠ [])
    (apart : ∀ c ∈ after.head?, isBlank c = true) (joints : word.all isJoint = true) :
    joinedWord text =
      (solid after.trimStart <|> if word.length = 1 then none else some ((), after)) := by
  have stops (c : Char) (behind : c ∈ after.head?) : isJoint c = false := by
    refine Bool.eq_false_iff.mpr fun joint => ?_
    have blank := apart c behind
    rw [isBlank_of_isJoint joint] at blank
    cases blank
  obtain ⟨first, behind⟩ := Text.span_append (List.all_eq_true.mp joints) stops
  rw [← split] at first behind
  simp only [joinedWord, first, behind]
  rcases word with _ | ⟨c, _ | ⟨d, cs⟩⟩
  · contradiction
  · simp
  · simp

theorem joinedWord_of_mixed (split : text.trimStart = word ++ after)
    (visible : ∀ c ∈ word, isBlank c = false)
    (apart : ∀ c ∈ after.head?, isBlank c = true) (joined : word.head?.any isJoint = true)
    (mixed : word.all isJoint = false) : joinedWord text = some ((), after) := by
  obtain ⟨stop, member, stops⟩ : ∃ stop ∈ word, isJoint stop = false := by
    simpa using mixed
  obtain ⟨joints, behind⟩ := Text.takeWhile_append_of_mem stops member after
  obtain ⟨c, cs, rfl⟩ : ∃ c cs, word = c :: cs :=
    List.exists_cons_of_ne_nil (List.ne_nil_of_mem member)
  have first : isJoint c = true := joined
  have rest : (c :: cs).dropWhile isJoint ≠ [] := by
    intro none
    rw [List.dropWhile_eq_nil_iff.mp none stop member] at stops
    cases stops
  have seen : ∀ d ∈ (c :: cs).dropWhile isJoint, isBlank d = false := fun d later =>
    visible d ((List.dropWhile_sublist _).mem later)
  have start : Text.trimStart ((c :: cs).dropWhile isJoint ++ after) =
      (c :: cs).dropWhile isJoint ++ after := by
    obtain ⟨d, ds, same⟩ := List.exists_cons_of_ne_nil rest
    rw [same] at seen ⊢
    exact Text.trimStart_cons (seen d List.mem_cons_self)
  simp only [joinedWord, split, joints, behind, start, solid_append rest seen apart]
  rw [List.takeWhile_cons_of_pos first]
  cases cs.takeWhile isJoint <;> rfl

end Word

/-- The next word is taken and the token goes on with what is behind it, or it ends before that
word. -/
theorem joinedWord_step {text word : Text} {words : List Text}
    (parts : text.words = word :: words) :
    (joinedWord text = none ∧ goesOn text.words = false) ∨
      ∃ after, joinedWord text = some ((), after) ∧ goesOn text.words = goesOn after.words := by
  obtain ⟨after, split, nonempty, visible, apart, behind⟩ := Text.exists_word parts
  cases joined : word.head?.any isJoint with
  | false =>
    refine .inl ⟨joinedWord_of_unjoined split nonempty joined, ?_⟩
    cases words <;> simp [parts, goesOn, joined]
  | true =>
    cases joints : word.all isJoint with
    | false =>
      refine .inr ⟨after, joinedWord_of_mixed split visible apart joined joints, ?_⟩
      cases words <;> simp [parts, behind, goesOn, joined, joints]
    | true =>
      -- Operators alone look at the next word, whatever it is, and only one of them cannot do
      -- without.
      rw [joinedWord_of_joints split nonempty apart joints, parts]
      cases words with
      | nil =>
        rw [solid_trimStart_of_blank behind]
        by_cases single : word.length = 1
        · exact .inl ⟨by simp [single], by simp [goesOn, joints, single]⟩
        · have long : 1 < word.length := by
            have positive := List.length_pos_iff.mpr nonempty
            omega
          exact .inr ⟨after, by simp [single], by simp [goesOn, joined, behind, long]⟩
      | cons next words =>
        obtain ⟨rest, reads, later⟩ := solid_trimStart behind
        exact .inr ⟨rest, by rw [reads]; rfl, by simp [goesOn, joined, joints, later]⟩

theorem blockShape_of_unopened {text : Text} (unopened : text.head? ≠ some '\x7b') :
    blockShape text = none := by
  have closed : char '\x7b' text = none := by
    cases text with
    | nil => rfl
    | cons c cs => simp [char, show c ≠ '\x7b' from fun same => unopened (congrArg some same)]
  simp [blockShape, closed]

theorem setApartBlock_of_not_mem {text : Text} (unopened : '\x7b' ∉ text) :
    setApartBlock text = none := by
  have fresh : text.trimStart.head? ≠ some '\x7b' := fun opens =>
    unopened (Text.mem_of_mem_trimStart (List.mem_of_mem_head? opens))
  simp [setApartBlock, blockShape_of_unopened fresh]

theorem repeatedWithin_of_goesOn {bound : Nat} {text : Text} (fits : text.length ≤ bound)
    (stop : text.trimEnd = text) (goes : goesOn text.words = true) :
    (repeatedWithin (Reader.or joinedWord setApartBlock) bound text).2 = [] := by
  -- A word leaves a shorter text, which has no blank at its end and goes on just as well.
  induction bound generalizing text with
  | zero => exact List.eq_nil_of_length_eq_zero (Nat.le_zero.mp fits)
  | succ bound ih =>
    cases parts : text.words with
    | nil =>
      obtain rfl : text = [] := by
        by_contra nonempty
        exact Text.words_ne_nil stop nonempty parts
      rfl
    | cons word words =>
      rcases joinedWord_step parts with ⟨_, ends⟩ | ⟨after, reads, same⟩
      · rw [goes] at ends
        cases ends
      · obtain ⟨token, last, split, _⟩ := (joinedWord_ends reads).split
        have taken : Reader.or joinedWord setApartBlock text = some ((), after) :=
          or_eq_some_iff.mpr (.inl reads)
        simp only [repeatedWithin, taken]
        apply ih
        · rw [split, List.length_append, List.length_cons] at fits
          omega
        · rw [split, List.append_cons] at stop
          exact Text.trimEnd_of_append stop
        · rwa [← same]

theorem goesOn_of_repeatedWithin {bound : Nat} {text : Text} (unopened : '\x7b' ∉ text)
    (all : (repeatedWithin (Reader.or joinedWord setApartBlock) bound text).2 = []) :
    goesOn text.words = true := by
  induction bound generalizing text with
  | zero =>
    obtain rfl : text = [] := all
    rfl
  | succ bound ih =>
    cases parts : text.words with
    | nil => rfl
    | cons word words =>
      rw [← parts]
      rcases joinedWord_step parts with ⟨fails, _⟩ | ⟨after, reads, same⟩
      · have none : Reader.or joinedWord setApartBlock text = .none := by
          rw [or_of_none fails, setApartBlock_of_not_mem unopened]
        simp only [repeatedWithin, none] at all
        rw [all] at parts
        cases parts
      · have taken : Reader.or joinedWord setApartBlock text = some ((), after) :=
          or_eq_some_iff.mpr (.inl reads)
        simp only [repeatedWithin, taken] at all
        rw [same]
        exact ih (fun member => unopened ((joinedWord_ends reads).suffix.mem member)) all

theorem firstWord_append {word after : Text} (nonempty : word ≠ [])
    (visible : ∀ c ∈ word, isBlank c = false) (apart : ∀ c ∈ after.head?, isBlank c = true)
    (unopened : word.head? ≠ some '\x7b') (bound : Nat) :
    firstWord bound (word ++ after) = some ((), after) := by
  have taken := solid_append nonempty visible apart
  have shapeless : blockShape (word ++ after) = none := by
    apply blockShape_of_unopened
    rwa [List.head?_append_of_ne_nil word nonempty]
  cases bound with
  | zero => exact taken
  | succ bound => simp only [firstWord, shapeless, taken]

end Reader

variable {line : Text}

theorem leadingToken?_first (trimmed : line.Trimmed) (unopened : line.head? ≠ some '\x7b') :
    ∃ after : Text, after.words = line.words.tail ∧ after <:+ line ∧ after.trimEnd = after ∧
      (leadingToken? line = some (line, none) ↔
        (Reader.repeated (Reader.or Reader.joinedWord Reader.setApartBlock) after).2 = []) := by
  obtain ⟨word, words, parts⟩ :=
    List.exists_cons_of_ne_nil (Text.words_ne_nil trimmed.stop trimmed.ne_nil)
  obtain ⟨after, split, nonempty, visible, apart, behind⟩ := Text.exists_word parts
  rw [trimmed.start] at split
  rw [split, List.head?_append_of_ne_nil word nonempty] at unopened
  have first : Reader.firstWord line.length line = some ((), after) :=
    split ▸ Reader.firstWord_append nonempty visible apart unopened _
  obtain ⟨front, last, rest, more, whole, _, _, reads⟩ := exists_leadingToken trimmed first
  refine ⟨after, by rw [parts, List.tail_cons, behind], split ▸ List.suffix_append word after,
    Text.trimEnd_of_append (split ▸ trimmed.stop), ?_⟩
  rw [reads, more]
  constructor
  · intro token
    have same : front ++ [last] = line := congrArg Prod.fst (Option.some.inj token)
    rw [whole] at same
    exact (List.cons.inj (List.append_cancel_left same)).2.symm
  · rintro rfl
    rw [← whole]
    rfl

theorem leadingToken?_of_goesOn (trimmed : line.Trimmed) (unopened : line.head? ≠ some '\x7b')
    (goes : Reader.goesOn line.words.tail = true) : leadingToken? line = some (line, none) := by
  obtain ⟨after, parts, _, stop, whole⟩ := leadingToken?_first trimmed unopened
  apply whole.mpr
  apply Reader.repeatedWithin_of_goesOn (Nat.le_refl _) stop
  rwa [parts]

theorem leadingToken?_eq_iff (trimmed : line.Trimmed) (unopened : '\x7b' ∉ line) :
    leadingToken? line = some (line, none) ↔ Reader.goesOn line.words.tail = true := by
  have front : line.head? ≠ some '\x7b' := fun opens => unopened (List.mem_of_mem_head? opens)
  refine ⟨fun reads => ?_, leadingToken?_of_goesOn trimmed front⟩
  obtain ⟨after, parts, suffix, _, whole⟩ := leadingToken?_first trimmed front
  rw [← parts]
  exact Reader.goesOn_of_repeatedWithin
    (fun member => unopened (suffix.mem member)) (whole.mp reads)

theorem leadingToken?_of_unjoined {word between rest : Text} {c : Char}
    (trimmed : Text.Trimmed (word ++ (between ++ c :: rest))) (nonempty : word ≠ [])
    (visible : ∀ d ∈ word, isBlank d = false) (unopened : word.head? ≠ some '\x7b')
    (apart : between ≠ []) (blank : between.allBlank = true) (seen : isBlank c = false)
    (unjoined : Reader.isJoint c = false) (other : c ≠ '\x7b') :
    leadingToken? (word ++ (between ++ c :: rest)) = some (word, some (c :: rest)) := by
  have behind : Text.trimStart (between ++ c :: rest) = c :: rest := by
    rw [Text.trimStart_append blank, Text.trimStart_cons seen]
  have stops : ∀ d ∈ (between ++ c :: rest).head?, isBlank d = true := fun d member => by
    rw [List.head?_append_of_ne_nil between apart] at member
    exact List.all_eq_true.mp blank d (List.mem_of_mem_head? member)
  have ends : Reader.or Reader.joinedWord Reader.setApartBlock (between ++ c :: rest) = none := by
    have shapeless : Reader.blockShape (c :: rest) = none :=
      Reader.blockShape_of_unopened fun opens => other (Option.some.inj opens)
    rw [Reader.or_of_none]
    · simp [Reader.setApartBlock, behind, shapeless]
    · have word : Text.trimStart (between ++ c :: rest) = [c] ++ rest := behind
      exact Reader.joinedWord_of_unjoined word (List.cons_ne_nil c []) unjoined
  obtain ⟨front, last, _, rfl, whole, _, _, reads⟩ := exists_leadingToken trimmed
    (Reader.firstWord_append nonempty visible stops unopened _)
  rw [Reader.repeated_of_none ends] at whole reads
  have token : word = front ++ [last] :=
    List.append_cancel_right (whole.trans (List.append_cons front last _))
  have comment : Text.trim (between ++ c :: rest) = c :: rest := by
    rw [Text.trim, behind]
    exact Text.trimEnd_of_append (Text.trimEnd_of_append trimmed.stop)
  rw [reads, ← token, comment]
  rfl

end Tabletop
