import Tabletop.Formula.LeadingToken
import Tabletop.Proofs.Reading.Combinators
import Tabletop.Proofs.Trimming

/-! The leading token of a line. Every step that lengthens the token ends behind a character that is
not blank and before a blank or the end, so the token of a trimmed line is the whole line, or blanks
and a comment follow it. -/
namespace Tabletop

namespace Reader

/-- A token ends before the rest: the character before the rest is not blank, and the rest has no
further one directly behind it. -/
structure EndsToken (text rest : Text) : Prop where
  split : ∃ token last, text = token ++ last :: rest ∧ isBlank last = false
  apart : ∀ c ∈ rest.head?, isBlank c = true

theorem EndsToken.of_suffix {text later rest : Text} (ends : EndsToken later rest)
    (suffix : later <:+ text) : EndsToken text rest := by
  obtain ⟨before, rfl⟩ := suffix
  obtain ⟨token, last, rfl, visible⟩ := ends.split
  exact ⟨⟨before ++ token, last, (List.append_assoc ..).symm, visible⟩, ends.apart⟩

theorem EndsToken.suffix {text rest : Text} (ends : EndsToken text rest) : rest <:+ text := by
  obtain ⟨token, last, rfl, _⟩ := ends.split
  exact (List.suffix_cons last rest).trans (List.suffix_append token _)

theorem endsToken_dropWhile {last : Char} (visible : isBlank last = false) (token more : Text) :
    EndsToken (token ++ last :: more) (more.dropWhile fun c => !isBlank c) where
  split := by
    induction more generalizing token last with
    | nil => exact ⟨token, last, rfl, visible⟩
    | cons c more ih =>
      cases blank : isBlank c with
      | true => exact ⟨token, last, by simp [blank], visible⟩
      | false =>
        obtain ⟨longer, final, split, seen⟩ := ih blank (token ++ [last])
        refine ⟨longer, final, ?_, seen⟩
        rw [List.append_cons, split]
        simp [blank]
  apart := by
    intro c member
    have stops := List.head?_dropWhile_not (fun c => !isBlank c) more
    rw [member] at stops
    simpa using stops

theorem solid_ends {text rest : Text} (reads : solid text = some ((), rest)) :
    EndsToken text rest := by
  cases text with
  | nil => cases reads
  | cons c text =>
    cases blank : isBlank c with
    | true => simp [solid, blank] at reads
    | false =>
      simp only [solid, blank, Bool.false_eq_true, if_false, Option.some.injEq, Prod.mk.injEq,
        true_and] at reads
      subst reads
      exact endsToken_dropWhile blank [] text

theorem allBlank_of_solid {text : Text} (fails : solid text.trimStart = none) :
    text.allBlank = true := by
  cases start : text.trimStart with
  | nil => exact List.all_eq_true.mpr (List.dropWhile_eq_nil_iff.mp start)
  | cons c rest =>
    have first : isBlank c = false := Text.visible_of_trimStart start
    rw [start, solid, first] at fails
    cases fails

theorem optional_char_suffix (c : Char) (text : Text) : (optional (char c) text).2 <:+ text := by
  unfold optional
  split
  · next reads => exact char_eq_some_iff.mp reads ▸ List.suffix_cons c _
  · exact List.suffix_rfl

theorem blockShape_suffix {text rest : Text} (reads : blockShape text = some ((), rest)) :
    '\x7d' :: rest <:+ text := by
  simp only [blockShape, Option.bind_eq_bind, Option.bind_eq_some_iff, Prod.exists] at reads
  obtain ⟨_, inner, opens, reads⟩ := reads
  have inside : inner <:+ text := char_eq_some_iff.mp opens ▸ List.suffix_cons _ inner
  have starless := optional_char_suffix '*' inner
  split at reads
  · next c k value shape =>
    split at reads
    · rw [shape] at starless
      have closed : '\x7d' :: rest <:+ value := char_eq_some_iff.mp reads ▸ List.dropWhile_suffix _
      have header : value <:+ c :: k :: ':' :: value := List.suffix_append [c, k, ':'] value
      exact closed.trans (header.trans (starless.trans inside))
    · cases reads
  · cases reads

theorem firstWord_ends (bound : Nat) {text rest : Text}
    (reads : firstWord bound text = some ((), rest)) : EndsToken text rest := by
  induction bound generalizing text with
  | zero => exact solid_ends reads
  | succ bound ih =>
    simp only [firstWord] at reads
    split at reads
    · next inner block =>
      rw [Option.orElse_eq_orElse, Option.orElse_eq_or, Option.or_eq_some_iff] at reads
      rcases reads with later | ⟨_, reads⟩
      · have behind : inner <:+ text := (List.suffix_cons _ inner).trans (blockShape_suffix block)
        exact (ih later).of_suffix ((List.dropWhile_suffix _).trans behind)
      · exact solid_ends reads
    · exact solid_ends reads

theorem isBlank_of_isJoint {c : Char} (joint : isJoint c = true) : isBlank c = false := by
  simp only [isJoint, Bool.or_eq_true, beq_iff_eq] at joint
  rcases joint with ((((((((rfl | rfl) | rfl) | rfl) | rfl) | rfl) | rfl) | rfl) | rfl) <;> decide

theorem joinedWord_ends {text rest : Text} (reads : joinedWord text = some ((), rest)) :
    EndsToken text rest := by
  have start : text.trimStart <:+ text := List.dropWhile_suffix _
  have behind : text.trimStart.dropWhile isJoint <:+ text.trimStart := List.dropWhile_suffix _
  have word : (Text.trimStart (text.trimStart.dropWhile isJoint)) <:+ text :=
    (List.dropWhile_suffix _).trans (behind.trans start)
  simp only [joinedWord] at reads
  split at reads
  · cases reads
  · exact (solid_ends reads).of_suffix word
  · next several _ =>
    rw [Option.orElse_eq_orElse, Option.orElse_eq_or, Option.or_eq_some_iff] at reads
    rcases reads with later | ⟨wordless, reads⟩
    · exact (solid_ends later).of_suffix word
    · -- without a word the last joint ends the token
      cases reads
      obtain ⟨joints, last, split⟩ :=
        List.eq_nil_or_concat' (text.trimStart.takeWhile isJoint) |>.resolve_left several
      have joint : isJoint last = true :=
        List.mem_takeWhile_imp (split ▸ List.mem_append_right joints List.mem_cons_self)
      have whole := (text.trimStart.takeWhile_append_dropWhile (p := isJoint)).symm
      rw [split, List.append_assoc, List.singleton_append] at whole
      refine EndsToken.of_suffix
        ⟨⟨joints, last, whole, isBlank_of_isJoint joint⟩, fun c member => ?_⟩ start
      exact List.all_eq_true.mp (allBlank_of_solid wordless) c (List.mem_of_mem_head? member)

theorem setApartBlock_ends {text rest : Text} (reads : setApartBlock text = some ((), rest)) :
    EndsToken text rest := by
  unfold setApartBlock at reads
  split at reads
  · simp only [Option.bind_eq_bind, Option.bind_eq_some_iff, Prod.exists] at reads
    obtain ⟨_, behind, block, stop⟩ := reads
    cases stop
    obtain ⟨before, split⟩ := (blockShape_suffix block).trans (List.dropWhile_suffix _)
    rw [← split]
    exact endsToken_dropWhile (by decide) before behind
  · cases reads

theorem repeatedWithin_ends {reader : Reader Unit}
    (ends : ∀ text rest, reader text = some ((), rest) → EndsToken text rest) (bound : Nat)
    {text start : Text} (before : EndsToken text start) :
    EndsToken text (repeatedWithin reader bound start).2 := by
  induction bound generalizing start with
  | zero => exact before
  | succ bound ih =>
    rw [repeatedWithin]
    split
    · next reads => exact ih ((ends _ _ reads).of_suffix before.suffix)
    · exact before

theorem further_ends {text rest : Text}
    (reads : Reader.or joinedWord setApartBlock text = some ((), rest)) : EndsToken text rest := by
  rcases or_eq_some_iff.mp reads with word | ⟨_, block⟩
  · exact joinedWord_ends word
  · exact setApartBlock_ends block

theorem exists_firstWord (bound : Nat) {c : Char} (visible : isBlank c = false) (text : Text) :
    ∃ rest, firstWord bound (c :: text) = some ((), rest) := by
  have word : solid (c :: text) = some ((), text.dropWhile fun c => !isBlank c) := by
    simp [solid, visible]
  cases bound with
  | zero => exact ⟨_, word⟩
  | succ bound =>
    simp only [firstWord, word]
    split
    · next rest _ => cases firstWord bound rest.trimStart <;> exact ⟨_, rfl⟩
    · exact ⟨_, rfl⟩

end Reader

theorem exists_leadingToken {text word : Text} (trimmed : text.Trimmed)
    (first : Reader.firstWord text.length text = some ((), word)) :
    ∃ front last rest, (Reader.repeated (Reader.or Reader.joinedWord Reader.setApartBlock) word).2 =
      rest ∧ text = front ++ last :: rest ∧ isBlank last = false ∧
        (∀ c ∈ rest.head?, isBlank c = true) ∧
      leadingToken? text =
        some (front ++ [last], if rest.trim.isEmpty then none else some rest.trim) := by
  cases more : Reader.repeated (Reader.or Reader.joinedWord Reader.setApartBlock) word with
  | mk _ rest =>
    have ends : Reader.EndsToken text rest := by
      have last := Reader.repeatedWithin_ends (fun _ _ => Reader.further_ends) word.length
        (Reader.firstWord_ends _ first)
      rwa [← Reader.repeated, more] at last
    obtain ⟨front, last, split, seen⟩ := ends.split
    have token : Reader.taken text rest = front ++ [last] :=
      Reader.taken_append (by rw [split]; simp)
    refine ⟨front, last, rest, rfl, split, seen, ends.apart, ?_⟩
    simp only [leadingToken?, trimmed.start, first, Option.bind_eq_bind, Option.bind_some, more,
      token]

theorem leadingToken?_trimmed {text : Text} (trimmed : text.Trimmed) :
    leadingToken? text = some (text, none) ∨
      ∃ token between comment, leadingToken? text = some (token, some comment) ∧
        text = token ++ (between ++ comment) ∧ between ≠ [] ∧ between.allBlank = true ∧
        token.Trimmed ∧ comment.Trimmed := by
  obtain ⟨c, cs, rfl, visible⟩ := trimmed.head
  obtain ⟨word, first⟩ := Reader.exists_firstWord (c :: cs).length visible cs
  obtain ⟨front, last, rest, _, split, seen, apart, reads⟩ := exists_leadingToken trimmed first
  rw [reads]
  rw [split] at trimmed ⊢
  have stop : rest.trimEnd = rest := by
    rw [List.append_cons] at trimmed
    exact Text.trimEnd_of_append trimmed.stop
  obtain ⟨between, blank, whole⟩ := rest.exists_blank_append
  have comment : rest.trim = rest.trimStart := Text.trimEnd_of_append (whole ▸ stop)
  by_cases empty : rest.trim = []
  · left
    have none : rest = [] := by
      rw [← comment, empty, List.append_nil] at whole
      rw [← stop, whole, ← List.nil_append between, Text.trimEnd_append blank]
      rfl
    simp [none, Text.trim, Text.trimStart, Text.trimEnd]
  · right
    refine ⟨front ++ [last], between, rest.trim, ?_, ?_, ?_, blank, trimmed.front seen,
      Text.trimmed_trim empty⟩
    · simp [empty]
    · rw [comment, ← whole, List.append_assoc, List.singleton_append]
    · rintro rfl
      obtain ⟨d, ds, head, visible⟩ := (Text.trimmed_trim empty).head
      have blank : isBlank d = true := apart d (by rw [whole, ← comment, head]; rfl)
      rw [blank] at visible
      cases visible

end Tabletop
