import Mathlib.Data.List.Infix
import Tabletop.Proofs.Composing.Fragments
import Tabletop.Proofs.Resolving.Uses
import Tabletop.Proofs.Stripping

/-! Where the stats of a formula go when a roll is composed of it. A block takes those of its value
along, and all others stay in the body or in the comparator. -/
namespace Tabletop

variable {text start rest before : Text}

theorem Comparator.head_of_startsWithSign (trimmed : text.Trimmed)
    (signed : startsWithSign text = true) : ∃ c cs, text = c :: cs ∧ Sign.isSignChar c = true := by
  obtain ⟨c, cs, rfl, visible⟩ := trimmed.head
  refine ⟨c, cs, rfl, Bool.of_not_eq_false fun other => ?_⟩
  rw [startsWithSign, Text.trimStart_cons visible, Sign.leading_of_not_sign other] at signed
  cases signed

theorem parted_of_sign {c : Char} (sign : Sign.isSignChar c = true) (text tail : Text) :
    Parted text (c :: tail) := by
  refine parted_of_head (fun d starts => ?_) text
  cases starts
  rcases Sign.eq_of_isSignChar sign with rfl | rfl | rfl | rfl <;> decide

theorem parted_of_symbol (front : Text) (sign : Sign) (tail : Text) :
    Parted (front ++ sign.symbol) tail := by
  intro name named ends
  rcases List.suffix_or_suffix_of_suffix ends (List.suffix_append front sign.symbol) with
    inside | behind
  · exact absurd (inside.subset List.mem_cons_self) (not_mem_symbol (by decide) sign)
  · obtain ⟨c, symbol, split, isSign, _⟩ := sign.symbol_head
    have member : c ∈ '$' :: name := behind.subset (split ▸ List.mem_cons_self)
    have foreign : c ≠ '$' ∧ isNameChar c = false := by
      rcases Sign.eq_of_isSignChar isSign with rfl | rfl | rfl | rfl <;> decide
    have inside := named c ((List.mem_cons.mp member).resolve_left foreign.1)
    rw [foreign.2] at inside
    cases inside

theorem parted_of_rest (ends : rest = [] ∨ ∃ more, rest = ';' :: more) (text : Text) :
    Parted text rest := by
  refine parted_of_head (fun c starts => ?_) text
  rcases ends with rfl | ⟨more, rfl⟩ <;> cases starts
  decide

/-- No two dollar signs have a name or nothing between them. -/
def DollarsApart (text : Text) : Prop :=
  ∀ name : Text, (∀ c ∈ name, isNameChar c = true) → ¬ '$' :: (name ++ ['$']) <:+: text

theorem dollarsApart_iff : DollarsApart text ↔
    ∀ start ∈ text.tails, start.head? = some '$' →
      (start.tail.dropWhile isNameChar).head? ≠ some '$' := by
  constructor
  · intro spread start suffix dollar other
    obtain ⟨rest, rfl⟩ := List.head?_eq_some_iff.mp dollar
    obtain ⟨more, split⟩ := List.head?_eq_some_iff.mp other
    have whole : '$' :: rest = '$' :: (rest.takeWhile isNameChar ++ ['$']) ++ more := by
      simp [← split]
    exact spread (rest.takeWhile isNameChar) (fun c => List.mem_takeWhile_imp)
      (List.IsInfix.trans ⟨[], more, by rw [whole]; rfl⟩ ((List.mem_tails _ _).mp suffix).isInfix)
  · rintro apart name named ⟨before, after, rfl⟩
    refine apart ('$' :: (name ++ '$' :: after)) ((List.mem_tails _ _).mpr ⟨before, by simp⟩) rfl ?_
    rw [List.tail_cons, List.dropWhile_append_of_pos named]
    rfl

instance (text : Text) : Decidable (DollarsApart text) := decidable_of_iff _ dollarsApart_iff.symm

theorem DollarsApart.of_part {part : Text} (spread : DollarsApart text) (inside : part <:+: text) :
    DollarsApart part :=
  fun name named bridge => spread name named (bridge.trans inside)

theorem DollarsApart.parted {tail : Text} (spread : DollarsApart (text ++ '$' :: rest)) :
    Parted text tail := by
  rintro name named ⟨front, rfl⟩
  exact absurd ⟨front, rest, by simp⟩ (spread name named)

namespace Resolver.Uses

variable {resolver : Resolver} {stat : Text}

theorem of_symbol {sign : Sign} (uses : resolver.Uses stat (sign.symbol ++ text)) :
    resolver.Uses stat text :=
  uses.of_unopened (not_mem_symbol (by decide) sign) (not_mem_symbol (by decide) sign)

theorem symbol_append (uses : resolver.Uses stat text) (sign : Sign) :
    resolver.Uses stat (sign.symbol ++ text) :=
  uses.behind (parted_of_not_mem (not_mem_symbol (by decide) sign))

theorem of_block {block : CriticalBlock} (reads : CriticalBlock.reader start = some (block, rest))
    (uses : resolver.Uses stat (before ++ start)) :
    resolver.Uses stat before ∨ resolver.Uses stat block.value ∨ resolver.Uses stat rest := by
  obtain ⟨head, known, rfl, _⟩ := CriticalBlock.eq_of_reader reads
  have absent {m : Char} (foreign : m ∉ CriticalBlock.headChars) : m ∉ head :=
    fun member => foreign (known m member)
  rcases uses.of_ordinary_seam (by decide) (by decide) with first | later
  · exact .inl first
  · have value := (later.of_unopened (absent (by decide)) (absent (by decide))).of_symbol
    exact .inr (value.of_ordinary_seam (by decide) (by decide))

theorem of_found_block {block : CriticalBlock} {part line : Text}
    (found : (block, part) ∈ CriticalBlock.reader.findings text) (inside : part <:+: line)
    (uses : resolver.Uses stat block.value) :
    ∃ other ∈ CriticalBlock.findAll line.trim, resolver.Uses stat other.value := by
  obtain ⟨other, listed, same | ⟨front, sign, ends⟩⟩ :=
    CriticalBlock.exists_mem_findAll found inside
  · exact ⟨other, listed, same ▸ uses.trim⟩
  · refine ⟨other, listed, ends ▸ Uses.trim ?_⟩
    rw [← List.append_assoc]
    exact uses.behind (parted_of_symbol front sign _)

theorem strip (before : Text) (sealed : CriticalBlock.Sealed text)
    (uses : resolver.Uses stat (before ++ text)) :
    resolver.Uses stat (before ++ CriticalBlock.strip text) ∨
      ∃ found ∈ CriticalBlock.reader.findings text, resolver.Uses stat found.1.value := by
  -- The characters outside blocks are passed on to `before`; a block starts with nothing before it
  -- again.
  induction text using CriticalBlock.reader_takesPart.scan_induction generalizing before with
  | nil => exact .inl uses
  | plain c text unread ih =>
    rw [Reader.findings_cons unread, CriticalBlock.strip_cons unread, List.append_cons]
    rw [List.append_cons] at uses
    exact ih _ (sealed.of_part (List.suffix_cons c text).isInfix) uses
  | hit block part rest _ reads ih =>
    obtain ⟨later_sealed, stops⟩ := sealed.behind reads
    have parted : Parted before (CriticalBlock.strip rest) := parted_of_head stops before
    obtain ⟨taken, _, found⟩ := CriticalBlock.findings_of_reads reads
    rw [CriticalBlock.strip_of_reads reads, found]
    rcases of_block reads uses with first | value | later
    · exact .inl (first.before parted)
    · exact .inr ⟨_, List.mem_cons_self, value⟩
    · rcases ih [] later_sealed later with bare | ⟨other, listed, value⟩
      · exact .inl (Uses.behind bare parted)
      · exact .inr ⟨other, List.mem_cons_of_mem _ listed, value⟩

theorem of_comparator {sign : Sign} {value after : Text}
    (ends : after = [] ∨ ∃ more, after = ';' :: more)
    (uses : resolver.Uses stat (before ++ (sign.symbol ++ (value ++ after)))) :
    resolver.Uses stat before ∨ resolver.Uses stat value ∨ resolver.Uses stat after := by
  obtain ⟨c, symbol, split, isSign, _⟩ := sign.symbol_head
  have seam : isSeam c = true ∧ c ≠ '$' := by
    rcases Sign.eq_of_isSignChar isSign with rfl | rfl | rfl | rfl <;> decide
  have absent {m : Char} (foreign : Sign.isSignChar m = false) : m ∉ symbol := fun member =>
    not_mem_symbol foreign sign (split ▸ List.mem_cons_of_mem c member)
  rw [split] at uses
  rcases uses.of_ordinary_seam seam.1 seam.2 with first | later
  · exact .inl first
  · have later := later.of_unopened (absent (by decide)) (absent (by decide))
    rcases ends with rfl | ⟨more, rfl⟩
    · exact .inr (.inl (by simpa using later))
    · rcases later.of_ordinary_seam (by decide) (by decide) with value | others
      · exact .inr (.inl value)
      · have parted : Parted [';'] more := parted_of_not_mem (by decide)
        exact .inr (.inr (others.behind parted))

theorem extract (uses : resolver.Uses stat text) :
    resolver.Uses stat (Comparator.extract text).1 ∨
      resolver.Uses stat (Comparator.extract text).2 := by
  cases first : Comparator.inFormula.first? text with
  | none =>
    rw [Comparator.extract_of_none first]
    exact .inl uses
  | some found =>
    rw [Comparator.extract_of_first? first]
    obtain ⟨rfl, ends⟩ := Comparator.eq_of_first? first
    have parted : Parted found.before found.after := parted_of_rest ends _
    rcases uses.of_comparator ends with before | value | after
    · exact .inl (before.before parted)
    · exact .inr (value.trim.symbol_append _)
    · exact .inl (after.behind parted)

theorem overridden (threshold : Option Text) (uses : resolver.Uses stat text) :
    resolver.Uses stat (Comparator.overridden threshold text) ∨
      (threshold.getD []).trim ≠ [] ∧ resolver.Uses stat (Comparator.extract text).2 := by
  unfold Comparator.overridden
  dsimp only
  split
  · exact .inl uses
  · next given =>
    have given : (threshold.getD []).trim ≠ [] := by simpa using given
    have signed (sign : Comparator.startsWithSign (threshold.getD []).trim = true)
        (front tail : Text) : Parted front ((threshold.getD []).trim ++ tail) := by
      obtain ⟨c, cs, split, isSign⟩ :=
        Comparator.head_of_startsWithSign (Text.trimmed_trim given) sign
      rw [split]
      exact parted_of_sign isSign front _
    cases first : Comparator.inFormula.first? text with
    | none =>
      dsimp only
      split
      · next sign => exact .inl (uses.before (by simpa using signed sign text []))
      · exact .inl uses
    | some found =>
      obtain ⟨rfl, ends⟩ := Comparator.eq_of_first? first
      have replaced :
          (Comparator.extract (found.before ++
            (found.value.1.symbol ++ (found.value.2 ++ found.after)))).2 =
            found.value.1.symbol ++ found.value.2.trim := by
        rw [Comparator.extract_of_first? first]
      obtain ⟨c, symbol, head, isSign, _⟩ := found.value.1.symbol_head
      have leads (tail : Text) : Parted found.before (found.value.1.symbol ++ tail) :=
        head ▸ parted_of_sign isSign _ _
      rw [replaced]
      dsimp only
      rcases uses.of_comparator ends with first | value | after
      · left
        split
        · next sign =>
          rw [List.append_assoc]
          exact first.before (signed sign _ _)
        · rw [List.append_assoc, List.append_assoc]
          exact first.before (leads _)
      · exact .inr ⟨given, value.trim.symbol_append _⟩
      · left
        split <;> exact after.behind (parted_of_rest ends _)

theorem fill (total before : Text) (spread : DollarsApart (before ++ text))
    (uses : resolver.Uses stat (before ++ text)) :
    resolver.Uses stat (before ++ fillPlaceholder total text) := by
  -- What stands before the placeholder is kept in `before`, and ends there with all its names.
  induction text generalizing before with
  | nil => exact uses
  | cons c text ih =>
    have passed (same : fillPlaceholder total (c :: text) = c :: fillPlaceholder total text) :
        resolver.Uses stat (before ++ fillPlaceholder total (c :: text)) := by
      rw [List.append_cons] at spread uses
      rw [same, List.append_cons]
      exact ih _ spread uses
    by_cases dollar : c = '$'
    · subst dollar
      cases text with
      | nil =>
        rw [fillPlaceholder_alone]
        rcases uses.of_seam (by decide) rfl with first | later
        · exact first.before spread.parted
        · exact later.of_nil.elim
      | cons d text =>
        by_cases named : isNameChar d = true
        · exact passed (fillPlaceholder_named named total text)
        · have other : d ≠ '$' := by
            rintro rfl
            exact spread [] (fun _ member => by cases member) ⟨before, text, by simp⟩
          have filled : fillPlaceholder total ('$' :: d :: text) =
              total ++ fillPlaceholder total (d :: text) := by
            rw [fillPlaceholder_unnamed (by simpa using named), fillPlaceholder_cons_of_ne other]
          have alone : dollarReference ('$' :: d :: text) = none := by
            have unnamed : isNameStart d = false := Bool.eq_false_iff.mpr fun start =>
              named (isNameChar_of_isNameStart start)
            simp [dollarReference, unnamed]
          rw [filled]
          rcases uses.of_seam (by decide) alone with first | later
          · exact first.before spread.parted
          · rw [← List.append_assoc]
            have later := ih [] (spread.of_part ⟨before ++ ['$'], [], by simp⟩) later
            refine Uses.behind later (parted_of_head (fun e starts => ?_) _)
            rw [fillPlaceholder_cons_of_ne other] at starts
            cases starts
            simpa using named
    · exact passed (fillPlaceholder_cons_of_ne dollar total text)

theorem of_parts {parts : List Text} (parted : Parts text parts) (uses : resolver.Uses stat text) :
    ∃ part ∈ parts, resolver.Uses stat part := by
  induction parted with
  | last => exact ⟨_, List.mem_cons_self, uses⟩
  | more _ _ _ ih =>
    rcases uses.of_ordinary_seam (by decide) (by decide) with first | later
    · exact ⟨_, List.mem_cons_self, first⟩
    · obtain ⟨part, listed, used⟩ := ih later
      exact ⟨part, List.mem_cons_of_mem _ listed, used⟩

end Resolver.Uses

def composedParts (threshold : Option Text) (formula : Text) : List Text :=
  let parts := Comparator.extract (Comparator.overridden threshold (CriticalBlock.strip formula))
  [parts.1, parts.2]

def filled (statTotal : Option Text) (part : Text) : Text :=
  match statTotal with
  | some total => fillPlaceholder total part
  | none => part

theorem compose_parts (resolver : Resolver) (evaluator : Evaluator) (additions : Additions)
    (formula : Text) :
    ∃ body comparator, composedParts additions.threshold formula = [body, comparator] ∧
      (compose resolver evaluator additions formula).body =
        (resolver.resolve (filled additions.statTotal body)).formula.trim ∧
      (compose resolver evaluator additions formula).comparator = if comparator.isEmpty then []
        else evaluateComparator evaluator
          (resolver.resolve (filled additions.statTotal comparator)).formula :=
  ⟨_, _, rfl, rfl, rfl⟩

namespace Resolver.Uses

variable {resolver : Resolver} {stat : Text}

/-- A stat that a formula uses is used by a part that is composed, or by a block, unless it was in a
value that an override replaced. -/
theorem composed {threshold statTotal : Option Text} (sealed : CriticalBlock.Sealed text)
    (spread : statTotal ≠ none → ∀ part ∈ composedParts threshold text, DollarsApart part)
    (uses : resolver.Uses stat text) :
    (∃ part ∈ composedParts threshold text, resolver.Uses stat (filled statTotal part)) ∨
      (∃ found ∈ CriticalBlock.reader.findings text, resolver.Uses stat found.1.value) ∨
      ((threshold.getD []).trim ≠ [] ∧
        resolver.Uses stat (Comparator.extract (CriticalBlock.strip text)).2) := by
  have fill {part : Text} (listed : part ∈ composedParts threshold text)
      (uses : resolver.Uses stat part) : resolver.Uses stat (filled statTotal part) := by
    cases statTotal with
    | none => exact uses
    | some total => exact Uses.fill total [] (spread (by simp) part listed) uses
  rcases Uses.strip [] sealed uses with bare | block
  · rcases Uses.overridden threshold bare with kept | replaced
    · rcases kept.extract with body | comparator
      · exact .inl ⟨_, .head _, fill (.head _) body⟩
      · exact .inl ⟨_, .tail _ (.head _), fill (.tail _ (.head _)) comparator⟩
    · exact .inr (.inr replaced)
  · exact .inr (.inl block)

end Resolver.Uses
end Tabletop
