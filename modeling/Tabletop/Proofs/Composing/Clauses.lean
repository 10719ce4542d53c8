import Tabletop.Comparator.Extract
import Tabletop.Formula.Compose
import Tabletop.Proofs.Composing.Spelling
import Tabletop.Proofs.Reading.Plain
import Tabletop.Proofs.Scanning

/-! Clauses read back. What is read as a clause is written out as a text that reads as the same
clause, also with its thresholds evaluated, and it is found again behind a body that holds no
sign. -/
namespace Tabletop

namespace Clause

structure Value (text : Text) : Prop where
  trimmed : text.Trimmed
  signless : ∀ c ∈ text, Sign.isSignChar c = false

structure Sound (clause : Clause) : Prop where
  value : Value clause.value
  opposition : ∀ sign value, clause.opposition = some (sign, value) → Value value

theorem Value.head_ne {value : Text} (sound : Value value) (rest : Text) :
    (value ++ rest).head? ≠ some '=' := by
  cases value with
  | nil => exact absurd rfl sound.trimmed.ne_nil
  | cons c cs =>
    intro first
    cases Option.some.inj first
    have signless := sound.signless '=' List.mem_cons_self
    contradiction

theorem part_append {sign : Sign} {value rest : Text} (sound : Value value)
    (stop : ∀ c ∈ rest.head?, Sign.isSignChar c = true) :
    part (sign.symbol ++ (value ++ rest)) = some ((sign, value), rest) :=
  part_eq_some_iff.mpr ⟨Sign.head?_leading_iff.mp (Sign.leading_head (sound.head_ne rest)),
    sound.trimmed.ne_nil, sound.signless, stop⟩

theorem trimmed_symbol (sign : Sign) : sign.symbol.Trimmed :=
  Text.trimmed_of_visible sign.symbol_ne_nil (by cases sign <;> simp [Sign.symbol] <;> decide)

theorem exists_text_eq {clause : Clause} (sound : clause.Sound) :
    ∃ rest :
    Text, clause.text = clause.sign.symbol ++ rest ∧ rest.Trimmed ∧ rest.head? ≠ some '=' := by
  unfold text
  cases same : clause.opposition with
  | none =>
    refine ⟨clause.value, List.append_nil _, sound.value.trimmed, ?_⟩
    simpa using sound.value.head_ne []
  | some other =>
    have ends := (sound.opposition other.1 other.2 same).trimmed
    refine ⟨clause.value ++ (other.1.symbol ++ other.2), List.append_assoc _ _ _, ?_,
      sound.value.head_ne _⟩
    exact sound.value.trimmed.append _ ends

theorem trimmed_text {clause : Clause} (sound : clause.Sound) : clause.text.Trimmed := by
  obtain ⟨rest, same, trimmed, _⟩ := exists_text_eq sound
  rw [same]
  exact (trimmed_symbol _).append [] trimmed

theorem parts?_text {clause : Clause} (sound : clause.Sound) :
    parts? clause.text = some ((clause.sign, clause.value), clause.opposition) := by
  unfold text
  rw [List.append_assoc]
  cases same : clause.opposition with
  | none => exact parts?_eq_some_iff.mpr (.inl ⟨rfl, part_append sound.value (by simp)⟩)
  | some other =>
    obtain ⟨sign, opposed⟩ := other
    obtain ⟨c, cs, symbol, isSign, _⟩ := sign.symbol_head
    have later : part (sign.symbol ++ (opposed ++ [])) = some ((sign, opposed), []) :=
      part_append (sound.opposition sign opposed same) (by simp)
    rw [List.append_nil] at later
    refine parts?_eq_some_iff.mpr
      (.inr ⟨_, _, rfl, part_append sound.value (by simp [symbol, isSign]), later⟩)

theorem parse?_text {clause : Clause} (sound : clause.Sound) :
    parse? clause.text = some clause := by
  have nonempty (value : Text) (valid : Value value) : value.isEmpty = false := by
    simpa using valid.trimmed.ne_nil
  simp only [parse?, (trimmed_text sound).trim, parts?_text sound, Option.bind_eq_bind,
    Option.bind_some, sound.value.trimmed.trim, nonempty _ sound.value, Bool.false_eq_true,
    if_false]
  obtain ⟨sign, value, opposition⟩ := clause
  cases opposition with
  | none => rfl
  | some other =>
    have opposed := sound.opposition other.1 other.2 rfl
    simp only [Option.bind_some, opposed.trimmed.trim, nonempty _ opposed, Bool.false_eq_true,
      if_false]

theorem WrittenValue.value {value : Text} (written : WrittenValue value) : Value value.trim :=
  ⟨Text.trimmed_trim written.visible,
    fun c member => written.signless c (Text.mem_of_mem_trim member)⟩

theorem sound_of_parse? {text : Text} {clause : Clause} (reads : parse? text = some clause) :
    clause.Sound := by
  cases spells_of_parse? reads with
  | alone _ written => exact ⟨written.value, by simp⟩
  | opposed _ written _ written' =>
    refine ⟨written.value, fun sign value same => ?_⟩
    cases same
    exact written'.value

theorem parse?_trim (text : Text) : parse? text.trim = parse? text := by
  simp only [parse?, Text.trim_trim]

theorem not_mem_of_parse? {text : Text} {clause : Clause} (reads : parse? text = some clause)
    {m : Char} (fresh : m ∉ text) :
    m ∉ clause.value ∧ ∀ sign value, clause.opposition = some (sign, value) → m ∉ value := by
  have fresh : m ∉ text.trim := fun member => fresh (Text.mem_of_mem_trim member)
  cases spells_of_parse? reads with
  | alone longest _ =>
    exact ⟨fun member => fresh (by simp [longest.split, Text.mem_of_mem_trim member]), by simp⟩
  | opposed longest _ behind _ =>
    refine ⟨fun member => fresh (by simp [longest.split, Text.mem_of_mem_trim member]),
      fun sign value same => ?_⟩
    cases same
    exact fun member => fresh (by simp [longest.split, behind.split, Text.mem_of_mem_trim member])

/-- A text is read as a clause exactly when it spells one, blanks at its ends apart, and the text of
a clause that was read is read as the same clause again. -/
theorem parse?_exact (text : Text) :
    (∀ clause, parse? text = some clause ↔ Spells text.trim clause) ∧
      ∀ clause ∈ parse? text, parse? clause.text = some clause :=
  ⟨fun _ => ⟨spells_of_parse?, parse?_of_spells⟩,
    fun _ reads => parse?_text (sound_of_parse? reads)⟩

example : parse? [' ', '>', ' ', '1', '0', ' ', '!', '=', '5'] =
    some ⟨.greater, ['1', '0'], some (.notEqual, ['5'])⟩ := by
  decide

end Clause

namespace Amount

theorem text_ne_nil (n : Amount) : n.text ≠ [] := by
  unfold text Text.ofInt
  split
  · exact Text.ofNat_ne_nil _
  · exact List.cons_ne_nil _ _

theorem isDigit_of_mem_text {n : Amount} {c : Char} (member : c ∈ n.text) :
    c = '-' ∨ c.isDigit = true := by
  unfold text Text.ofInt at member
  split at member
  · exact .inr (Text.isDigit_of_mem_ofNat member)
  · exact (List.mem_cons.mp member).imp_right Text.isDigit_of_mem_ofNat

theorem visible_text (n : Amount) : ∀ c ∈ n.text, isBlank c = false := by
  intro c member
  rcases isDigit_of_mem_text member with rfl | digit
  · decide
  · exact isBlank_of_isDigit digit

theorem value_text (n : Amount) : Clause.Value n.text := by
  refine ⟨Text.trimmed_of_visible n.text_ne_nil n.visible_text, fun c member => ?_⟩
  rcases isDigit_of_mem_text member with rfl | digit
  · decide
  · refine Bool.eq_false_iff.mpr fun sign => ?_
    rcases Sign.eq_of_isSignChar sign with rfl | rfl | rfl | rfl <;> contradiction

end Amount

theorem value_evaluateThreshold {value : Text} (sound : Clause.Value value)
    (evaluator : Evaluator) : Clause.Value (evaluateThreshold evaluator value) := by
  unfold evaluateThreshold
  split
  · exact sound
  · split
    · exact Amount.value_text _
    · exact sound

def Clause.evaluated (evaluator : Evaluator) (clause : Clause) : Clause where
  sign := clause.sign
  value := evaluateThreshold evaluator clause.value
  opposition := clause.opposition.map fun (sign, value) => (sign, evaluateThreshold evaluator value)

theorem Clause.Sound.evaluated {clause : Clause} (sound : clause.Sound) (evaluator : Evaluator) :
    (clause.evaluated evaluator).Sound where
  value := value_evaluateThreshold sound.value evaluator
  opposition sign value same := by
    simp only [Clause.evaluated, Option.map_eq_some_iff] at same
    obtain ⟨⟨other, text⟩, known, rfl, rfl⟩ := same
    exact value_evaluateThreshold (sound.opposition _ _ known) evaluator

theorem evaluateComparator_eq {evaluator : Evaluator} {comparator : Text} {clause : Clause}
    (reads : Clause.parse? comparator = some clause) :
    evaluateComparator evaluator comparator = (clause.evaluated evaluator).text := by
  simp only [evaluateComparator, reads, Clause.text, Clause.evaluated]
  cases clause.opposition <;> rfl

theorem trim_evaluateComparator (evaluator : Evaluator) (comparator : Text) :
    (evaluateComparator evaluator comparator).trim = evaluateComparator evaluator comparator := by
  cases reads : Clause.parse? comparator with
  | none => simp only [evaluateComparator, reads, Text.trim_trim]
  | some clause =>
    rw [evaluateComparator_eq reads]
    exact (Clause.trimmed_text ((Clause.sound_of_parse? reads).evaluated evaluator)).trim

namespace Comparator

theorem inFormula_of_not_sign {c : Char} (other : Sign.isSignChar c = false) (rest : Text) :
    inFormula (c :: rest) = none := by
  simp [inFormula, signedValue, Sign.leading_of_not_sign other]

theorem extract_signless {body : Text} (signless : ∀ c ∈ body, Sign.isSignChar c = false) :
    extract body = (body, []) := by
  have none : inFormula.first? body = none := Reader.first?_eq_none fun before c after split =>
    inFormula_of_not_sign (signless c (split ▸ List.mem_append_right _ List.mem_cons_self)) after
  exact extract_of_none none

theorem inFormula_append {sign : Sign} {value rest : Text} (next : value.head? ≠ some '=')
    (nonempty : value ≠ []) (whole : ';' ∉ value) (ends : rest = [] ∨ ∃ more, rest = ';' :: more) :
    inFormula (sign.symbol ++ (value ++ rest)) = some ((sign, value), rest) := by
  obtain ⟨taken, left⟩ := Text.span_of_not_mem whole ends
  have follows : (value ++ rest).head? ≠ some '=' := by
    cases value with
    | nil => contradiction
    | cons c cs => exact next
  have leads : (Sign.leading (sign.symbol ++ (value ++ rest))).head? = some (sign, value ++ rest) :=
    Sign.leading_head follows
  obtain ⟨candidates, first⟩ := List.head?_eq_some_iff.mp leads
  have full : value.isEmpty = false := by simpa using nonempty
  simp only [inFormula, signedValue, first, List.findSome?_cons, taken, left, full,
    Bool.false_eq_true, if_false]

theorem inFormula_text {clause : Clause} (sound : clause.Sound) (whole : ';' ∉ clause.text) :
    ∃ rest : Text, inFormula clause.text = some ((clause.sign, rest), []) ∧
      clause.text = clause.sign.symbol ++ rest ∧ rest.trim = rest := by
  obtain ⟨rest, same, trimmed, next⟩ := Clause.exists_text_eq sound
  refine ⟨rest, ?_, same, trimmed.trim⟩
  rw [same] at whole ⊢
  simpa using inFormula_append next trimmed.ne_nil
    (fun member => whole (List.mem_append_right _ member)) (.inl rfl)

theorem eq_of_signedValue {close : Char} {text value rest : Text} {sign : Sign}
    (reads : signedValue close text = some ((sign, value), rest)) :
    text = sign.symbol ++ (value ++ rest) ∧ value ≠ [] ∧ close ∉ value := by
  obtain ⟨⟨first, behind⟩, leads, read⟩ := List.exists_of_findSome?_eq_some reads
  dsimp only at read
  split at read
  · cases read
  · next nonempty =>
    cases read
    refine ⟨?_, by simpa using nonempty, fun member => by simpa using List.mem_takeWhile_imp member⟩
    rw [List.takeWhile_append_dropWhile]
    exact Sign.eq_append_of_mem_leading leads

theorem rest_eq_of_signedValue {close : Char} {text rest : Text} {found : Sign × Text}
    (reads : signedValue close text = some (found, rest)) :
    rest = [] ∨ ∃ more, rest = close :: more := by
  obtain ⟨⟨sign, behind⟩, _, read⟩ := List.exists_of_findSome?_eq_some reads
  dsimp only at read
  split at read
  · cases read
  · cases read
    cases split : behind.dropWhile (· ≠ close) with
    | nil => exact .inl rfl
    | cons c more =>
      have stops := List.head?_dropWhile_not (· ≠ close) behind
      rw [split] at stops
      obtain rfl : c = close := by simpa using stops
      exact .inr ⟨more, rfl⟩

theorem rest_of_signedValue {close : Char} {text rest : Text} {found : Sign × Text}
    (fresh : close ∉ text) (reads : signedValue close text = some (found, rest)) : rest = [] := by
  rcases rest_eq_of_signedValue reads with ends | ⟨more, rfl⟩
  · exact ends
  · rw [(eq_of_signedValue reads).1] at fresh
    simp at fresh

theorem eq_of_first? {formula : Text} {found : Occurrence (Sign × Text)}
    (first : inFormula.first? formula = some found) :
    formula = found.before ++ (found.value.1.symbol ++ (found.value.2 ++ found.after)) ∧
      (found.after = [] ∨ ∃ more, found.after = ';' :: more) := by
  obtain ⟨start, split, reads⟩ := Reader.exists_of_first? first
  exact ⟨(eq_of_signedValue reads).1 ▸ split, rest_eq_of_signedValue reads⟩

theorem extract_append_text {body : Text} (signless : ∀ c ∈ body, Sign.isSignChar c = false)
    {clause : Clause} (sound : clause.Sound) (whole : ';' ∉ clause.text) :
    extract (body ++ clause.text) = (body, clause.text) := by
  obtain ⟨rest, reads, same, trimmed⟩ := inFormula_text sound whole
  obtain ⟨c, cs, start, _⟩ := (Clause.trimmed_text sound).head
  rw [start] at reads
  have found : inFormula.first? (body ++ c :: cs) =
      some ⟨body, (clause.sign, rest), Reader.taken (c :: cs) [], []⟩ :=
    Reader.first?_append_of_reads reads fun earlier d later split =>
      inFormula_of_not_sign (signless d (split ▸ List.mem_append_right _ List.mem_cons_self)) _
  rw [← start] at found
  simp only [extract_of_first? found, List.append_nil, trimmed, ← same]

end Comparator
end Tabletop
