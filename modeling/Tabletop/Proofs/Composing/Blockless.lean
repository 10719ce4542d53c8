import Tabletop.Proofs.Mending
import Tabletop.Proofs.Resolving.References

/-! Bodies without blocks. What composing puts into a text can only stand in the value of a block,
and what it takes out is a comparator, which could stand there too, so it brings about no block that
was not there before. -/
namespace Tabletop

variable {text new part : Text}

namespace CriticalBlock

theorem findAll_of_infix (unblocked : findAll text = []) (inside : part <:+: text) :
    findAll part = [] := by
  rw [findAll_eq_nil_iff_forall] at unblocked ⊢
  rintro start suffix
  obtain ⟨before, after, rfl⟩ := inside
  obtain ⟨front, rfl⟩ := suffix
  exact reader_eq_none_of_append (unblocked (start ++ after) ⟨before ++ front, by simp⟩)

def isBlockMark (c : Char) : Bool :=
  c == '\x7b' || c == '\x7d' || headChars.contains c || Sign.isSignChar c

/-- The text has characters, all of them ones that a block can only have in its value. -/
structure Filling (text : Text) : Prop where
  ne_nil : text ≠ []
  unmarked : ∀ c ∈ text, isBlockMark c = false

/-- The one text becomes the other when fillings are put in place of parts of it. -/
inductive Filled : Text → Text → Prop where
  | nil : Filled [] []
  | keep (c : Char) {text new : Text} : Filled text new → Filled (c :: text) (c :: new)
  | put {c : Char} (part : Text) {filling text new : Text} :
      c ≠ '\x7d' → Filling filling → Filled text new →
      Filled (c :: (part ++ text)) (filling ++ new)

theorem Filling.fresh {m : Char} (filling : Filling text) (mark : isBlockMark m = true) :
    m ∉ text := fun member => by
  rw [filling.unmarked m member] at mark
  cases mark

namespace Filled

theorem kept (filled : Filled text new) (part : Text) : Filled (part ++ text) (part ++ new) := by
  induction part with
  | nil => exact filled
  | cons c part ih => exact .keep c ih

theorem closed (filled : Filled text new) (closed : '\x7d' ∈ new) : '\x7d' ∈ text := by
  induction filled with
  | nil => exact closed
  | keep c _ ih =>
    rcases List.mem_cons.mp closed with rfl | later
    · exact List.mem_cons_self
    · exact List.mem_cons_of_mem c (ih later)
  | put part _ filling _ ih =>
    have later := (List.mem_append.mp closed).resolve_left (filling.fresh (by decide))
    simp [ih later]

theorem of_marks {word behind : Text} (marks : ∀ c ∈ word, isBlockMark c = true)
    (filled : Filled text (word ++ behind)) : ∃ rest, text = word ++ rest ∧ Filled rest behind := by
  induction word generalizing text with
  | nil => exact ⟨text, rfl, filled⟩
  | cons c word ih =>
    have mark := marks c List.mem_cons_self
    generalize whole : c :: word ++ behind = line at filled
    cases filled with
    | nil => cases whole
    | keep d later =>
      obtain ⟨rfl, rfl⟩ := List.cons.inj whole
      obtain ⟨rest, rfl, filled⟩ :=
        ih (fun d member => marks d (List.mem_cons_of_mem c member)) later
      exact ⟨rest, rfl, filled⟩
    | @put d part filling _ _ _ filler _ =>
      obtain ⟨e, more, rfl⟩ := List.exists_cons_of_ne_nil filler.ne_nil
      obtain ⟨rfl, _⟩ := List.cons.inj whole
      exact absurd List.mem_cons_self (filler.fresh mark)

theorem closes (filled : Filled text new) (closes : Closes new) : Closes text := by
  refine ⟨filled.closed closes.closed, fun starts => closes.value ?_⟩
  cases filled with
  | nil => cases starts
  | keep c _ => exact starts
  | put part other _ _ => exact absurd (Option.some.inj starts) other

theorem reads (filled : Filled text new) (reads : (reader new).isSome) : (reader text).isSome := by
  obtain ⟨head, sign, behind, opens, rfl, closes⟩ := reader_isSome_iff.mp reads
  have marks : ∀ c ∈ head ++ sign.symbol, isBlockMark c = true := by
    intro c member
    rcases List.mem_append.mp member with member | member
    · rcases opens.known c member with rfl | known
      · rfl
      · simp [isBlockMark, known]
    · simp [isBlockMark, Sign.isSignChar_of_mem_symbol member]
  rw [← List.append_assoc] at filled
  obtain ⟨rest, rfl, later⟩ := filled.of_marks marks
  exact reader_isSome_iff.mpr ⟨head, sign, rest, opens, by simp, later.closes closes⟩

theorem findAll_eq_nil (filled : Filled text new) (unblocked : findAll text = []) :
    findAll new = [] := by
  rw [findAll_eq_nil_iff_forall] at unblocked ⊢
  induction filled with
  | nil => exact unblocked
  | @keep c text new later ih =>
    intro start suffix
    rcases List.suffix_cons_iff.mp suffix with rfl | further
    · refine Option.not_isSome_iff_eq_none.mp fun reads => ?_
      have before := (later.keep c).reads reads
      rw [unblocked _ (List.suffix_refl _)] at before
      cases before
    · exact ih (fun start ends => unblocked start (ends.trans (List.suffix_cons c text))) start
        further
  | @put c part filling text new _ filler _ ih =>
    intro start suffix
    have behind : text <:+ c :: (part ++ text) := ⟨c :: part, by simp⟩
    obtain ⟨d, more, rfl⟩ | rfl : (∃ d more, start = d :: more) ∨ start = [] := by
      cases start <;> simp
    · by_cases opens : d = '\x7b'
      · subst opens
        have further := Text.suffix_of_suffix_append (filler.fresh (by decide)) suffix
        exact ih (fun start ends => unblocked start (ends.trans behind)) _ further
      · exact reader_starts.of_ne opens more
    · rfl

end Filled

theorem reads_of_extracted (sign : Sign) (value : Text) {after : Text}
    (ends : after = [] ∨ ∃ more, after = ';' :: more)
    (reads : (reader (part ++ after)).isSome) :
    (reader (part ++ (sign.symbol ++ (value ++ after)))).isSome := by
  have whole := reads
  obtain ⟨head, other, _, opens, split, _⟩ := reader_isSome_iff.mp reads
  obtain ⟨reading, reads⟩ := Option.isSome_iff_exists.mp reads
  have closed := mem_of_reader reads
  by_cases inside : '\x7d' ∈ part
  · rw [reader_append inside] at whole ⊢
    simpa using whole
  have behind : '\x7d' ∈ after := (List.mem_append.mp closed).resolve_left inside
  have unparted : ';' ∉ head ++ other.symbol := by
    have head : ';' ∉ head :=
      fun member => by rcases opens.known _ member with same | known <;> contradiction
    simp [head, not_mem_symbol (m := ';') (by decide) other]
  obtain ⟨taken, rfl⟩ : ∃ taken, part = head ++ (other.symbol ++ taken) := by
    rw [← List.append_assoc] at split
    rcases List.append_eq_append_iff.mp split with ⟨rest, short, later⟩ | ⟨taken, rfl, _⟩
    · rcases ends with rfl | ⟨more, rfl⟩
      · cases behind
      · cases rest with
        | nil => exact ⟨[], by simpa using short.symm⟩
        | cons c rest =>
          obtain ⟨rfl, _⟩ := List.cons.inj later
          exact absurd (by simp [short]) unparted
    · exact ⟨taken, by simp⟩
  refine reader_isSome_iff.mpr ⟨head, other, taken ++ (sign.symbol ++ (value ++ after)), opens,
    by simp, ?_⟩
  rw [← List.append_assoc taken]
  have unclosed : '\x7d' ∉ taken ++ sign.symbol := by
    have taken : '\x7d' ∉ taken := fun member => inside (by simp [member])
    simp [taken, not_mem_symbol (m := '\x7d') (by decide) sign]
  exact closes_append (by simp [sign.symbol_ne_nil]) unclosed (List.mem_append_right value behind)

theorem findAll_extract (unblocked : findAll text = []) :
    findAll (Comparator.extract text).1 = [] := by
  cases first : Comparator.inFormula.first? text with
  | none =>
    rw [Comparator.extract_of_none first]
    exact unblocked
  | some found =>
    rw [Comparator.extract_of_first? first]
    obtain ⟨split, ends⟩ := Comparator.eq_of_first? first
    rw [findAll_eq_nil_iff_forall] at unblocked ⊢
    rintro start ⟨front, same⟩
    refine Option.not_isSome_iff_eq_none.mp fun reads => ?_
    rcases List.append_eq_append_iff.mp same with ⟨part, before, rfl⟩ | ⟨part, _, after⟩
    · have more := reads_of_extracted found.value.1 found.value.2 ends reads
      rw [unblocked _ ⟨front, by rw [split, before, List.append_assoc]⟩] at more
      cases more
    · have suffix : start <:+ text := by
        rw [split, after]
        exact ⟨found.before ++ (found.value.1.symbol ++ (found.value.2 ++ part)), by simp⟩
      rw [unblocked start suffix] at reads
      cases reads

theorem isAmountChar_of_isBlockMark {c : Char} (mark : isBlockMark c = true) :
    isAmountChar c = false := by
  simp only [isBlockMark, headChars, Sign.isSignChar, Bool.or_eq_true, beq_iff_eq,
    List.contains_eq_mem, decide_eq_true_eq, List.mem_cons, List.not_mem_nil, or_false,
    or_assoc] at mark
  rcases mark with rfl | rfl | rfl | rfl | rfl | rfl | rfl | rfl | rfl | rfl | rfl | rfl | rfl | rfl
    | rfl <;> decide

theorem filling_of_amount (nonempty : text ≠ []) (digits : ∀ c ∈ text, isAmountChar c = true) :
    Filling text := by
  refine ⟨nonempty, fun c member => Bool.eq_false_iff.mpr fun mark => ?_⟩
  have digit := digits c member
  rw [isAmountChar_of_isBlockMark mark] at digit
  cases digit

theorem filling_operand (n : Amount) : Filling n.operand where
  ne_nil := by
    unfold Amount.operand
    split
    · exact List.cons_ne_nil _ _
    · exact n.text_ne_nil
  unmarked := fun _ member => Bool.eq_false_iff.mpr fun mark =>
    n.not_mem_operand (isAmountChar_of_isBlockMark mark) member

theorem filled_substituted {reader : Reader α} {m : Char} {exchange : α → Text → Text}
    (opens : reader.OpensWith m) (other : m ≠ '\x7d')
    (fills : ∀ value part, exchange value part = part ∨ Filling (exchange value part))
    (text : Text) : Filled text (reader.substituted exchange text) := by
  induction text using opens.takesPart.scan_induction with
  | nil => exact .nil
  | plain c text unread ih =>
    rw [Reader.substituted_cons unread]
    exact ih.keep c
  | hit value part rest nonempty reads ih =>
    rw [Reader.substituted_of_reads nonempty reads]
    rcases fills value part with same | filling
    · rw [same]
      exact ih.kept part
    · obtain ⟨inner, split, _⟩ := opens _ _ _ reads
      have starts : part = m :: inner := List.append_cancel_right (by simpa using split)
      rw [starts] at filling ⊢
      exact .put inner other filling ih

theorem filled_placeholder {total : Text} (filling : Filling total) (text : Text) :
    Filled text (fillPlaceholder total text) := by
  induction text using fillPlaceholder_induction with
  | nil => exact .nil
  | plain c text other ih =>
    rw [fillPlaceholder_cons_of_ne other]
    exact ih.keep c
  | alone =>
    rw [fillPlaceholder_alone]
    simpa using Filled.put [] (by decide : '$' ≠ '\x7d') filling .nil
  | named c text named ih =>
    rw [fillPlaceholder_named named]
    exact ih.keep '$'
  | unnamed c text unnamed ih =>
    rw [fillPlaceholder_unnamed unnamed]
    exact .put [] (by decide) filling (ih.keep c)

theorem forDollar_filling (resolver : Resolver) (name part : Text) :
    (resolver.forDollar name part).1 = part ∨ Filling (resolver.forDollar name part).1 := by
  unfold Resolver.forDollar
  split
  · exact .inr (filling_operand _)
  · exact .inl rfl

theorem forGroup_filling (resolver : Resolver) (name part : Text) :
    (resolver.forGroup name part).1 = part ∨ Filling (resolver.forGroup name part).1 := by
  unfold Resolver.forGroup
  split
  · exact .inl rfl
  · exact forDollar_filling resolver name part

theorem findAll_resolvePart {resolver : Resolver} {statTotal : Option Text}
    (plain : resolver.overrides = [])
    (total : ∀ text, statTotal = some text → Filling text) (unblocked : findAll text = []) :
    findAll (resolvePart resolver statTotal text) = [] := by
  have resolved {text : Text} (unblocked : findAll text = []) :
      findAll (resolver.resolve text).formula = [] := by
    rw [resolver.resolve_eq plain]
    refine Filled.findAll_eq_nil (filled_substituted parenthesisedName_opens (by decide) ?_ _)
      (Filled.findAll_eq_nil (filled_substituted dollarReference_opens (by decide) ?_ _) unblocked)
    · exact fun name part => forGroup_filling resolver name part
    · exact fun name part => forDollar_filling resolver name part
  cases statTotal with
  | none => exact resolved unblocked
  | some filling =>
      exact resolved ((filled_placeholder (total filling rfl) text).findAll_eq_nil unblocked)

theorem findAll_composed {resolver : Resolver} {additions : Additions}
    (plain : resolver.overrides = [])
    (total : ∀ text, additions.statTotal = some text → Filling text) (evaluator : Evaluator)
    (unblocked : findAll (Comparator.overridden additions.threshold (strip text)) = []) :
    findAll (compose resolver evaluator additions text).body = [] :=
  findAll_of_infix (findAll_resolvePart plain total (findAll_extract unblocked)) (Text.trim_part _)

/-- What is left of a formula has blocks exactly where one is mended; otherwise leaving blocks out
again changes nothing, and no body that is composed from the formula has one. -/
theorem findAll_strip_exact (formula : Text) :
    (findAll (strip formula) = [] ↔ ¬ ∃ front part tail, Mended formula front part tail) ∧
      (strip (strip formula) = strip formula ↔
        ¬ ∃ front part tail, Mended formula front part tail) ∧
      ∀ (resolver : Resolver) (evaluator : Evaluator) (additions : Additions),
        resolver.overrides = [] → additions.threshold = none →
        (∀ total, additions.statTotal = some total → total ≠ [] ∧
          ∀ c ∈ total, isAmountChar c = true) →
        (¬ ∃ front part tail, Mended formula front part tail) →
        findAll (compose resolver evaluator additions formula).body = [] := by
  refine ⟨findAll_strip_eq_nil_iff, strip_eq_self_iff.trans findAll_strip_eq_nil_iff, ?_⟩
  intro resolver evaluator additions plain unchanged amount unmended
  have total (text : Text) (given : additions.statTotal = some text) : Filling text :=
    filling_of_amount (amount text given).1 (amount text given).2
  refine findAll_composed plain total evaluator ?_
  rw [unchanged]
  exact findAll_strip_eq_nil_iff.mpr unmended

theorem findAll_strip_whole :
    let formula := ['1', 'd', '$', '+', '(', 'S', 't', 'r', ')', '\x7b', 'c', 's', ':', '>', '=',
      '1', '9', '\x7d', '>', '=', '9']
    let resolver : Resolver := { sheet := .ofList [(['S', 't', 'r'], ⟨2, by decide, by decide⟩)] }
    let additions : Additions := { statTotal := some ['2', '0'] }
    strip formula = ['1', 'd', '$', '+', '(', 'S', 't', 'r', ')', '>', '=', '9'] ∧
      (¬ ∃ front part tail, Mended formula front part tail) ∧
      (compose resolver .arithmetic additions formula).body = ['1', 'd', '2', '0', '+', '2'] ∧
      findAll (compose resolver .arithmetic additions formula).body = [] := by
  intro formula resolver additions
  obtain ⟨blocks, _, composed⟩ := findAll_strip_exact formula
  have unmended := blocks.mp (by decide +kernel)
  refine ⟨by decide +kernel, unmended, by decide +kernel,
    composed resolver .arithmetic additions rfl rfl ?_ unmended⟩
  intro total given
  cases given
  exact ⟨List.cons_ne_nil _ _, List.all_eq_true.mp (by decide)⟩

/-- A block in the middle of another one's opening. A threshold before it keeps the comparator of
the body apart. -/
theorem findAll_strip_mended :
    let nested := ['\x7b', 'c', '\x7b', 'c', 'f', ':', '<', '=', '2', '\x7d', 's', ':', '>', '=',
      '1', '9', '\x7d']
    let formula := ['1', 'd', '2', '0'] ++ nested
    let resolver : Resolver := { sheet := .ofList [] }
    findAll (strip formula) = [⟨.success, .atLeast, ['1', '9'], true⟩] ∧
      strip (strip formula) = ['1', 'd', '2', '0'] ∧ strip (strip formula) ≠ strip formula ∧
      findAll (compose resolver .arithmetic {} formula).roll =
        [⟨.success, .atLeast, ['1', '9'], true⟩] ∧
      findAll (compose resolver .arithmetic {} (['1', '>', '5', ';'] ++ nested)).body =
        [⟨.success, .atLeast, ['1', '9'], true⟩] := by
  decide +kernel

end CriticalBlock
end Tabletop
