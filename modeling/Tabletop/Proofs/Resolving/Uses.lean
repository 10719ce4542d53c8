import Tabletop.Proofs.Resolving.References

/-! The stats that a text uses. A reference is found wherever it stands, so a text uses the stats of
its parts as long as no name goes on over the seam between them, and it uses no others when a mark
parts them that no reference holds. -/
namespace Tabletop

variable {m : Char} {text tail word : Text}

theorem parted_of_not_mem (undollared : '$' ∉ text) : Parted text tail :=
  fun _ _ ends => absurd (ends.subset List.mem_cons_self) undollared

theorem dollarReference_scan_append (parted : Parted text tail) :
    dollarReference.scan (text ++ tail) = dollarReference.scan text ++ dollarReference.scan tail :=
  Reader.scanFrom_append (fun _ nonempty suffix =>
    dollarReference_append_of_parted
      (fun name named ends => parted name named (ends.trans suffix)) nonempty)
    (Nat.zero_le _)

theorem dollarReference_findings_append (parted : Parted text tail) :
    dollarReference.findings (text ++ tail) =
      dollarReference.findings text ++ dollarReference.findings tail := by
  simp only [Reader.findings, dollarReference_scan_append parted, List.filterMap_append]

namespace Resolver

variable {resolver : Resolver} {stat : Text}

theorem afterDollars_append (parted : Parted text tail) :
    resolver.afterDollars (text ++ tail) =
      resolver.afterDollars text ++ resolver.afterDollars tail := by
  simp only [afterDollars, Reader.substituted, dollarReference_scan_append parted,
    List.flatMap_append]

def statFor (resolver : Resolver) (term : Text) : Option Text :=
  (resolver.find? term).map fun found => found.name.capitalized

def IsGroupOf (resolver : Resolver) (stat word : Text) : Prop :=
  ∃ name spaced, word = '(' :: (spaced ++ [')']) ∧ Spaced name spaced ∧ IsPhrase name ∧
    isDiceName name = false ∧ resolver.statFor name = some stat

/-- The stat answers a dollar reference of the text, or a name in parentheses once those are
resolved. -/
def Uses (resolver : Resolver) (stat text : Text) : Prop :=
  (∃ found ∈ dollarReference.findings text, resolver.statFor found.1 = some stat) ∨
    ∃ word, resolver.IsGroupOf stat word ∧ word <:+: resolver.afterDollars text

theorem forDollar_snd (name whole : Text) :
    (resolver.forDollar name whole).2 = resolver.statFor name := by
  unfold forDollar statFor
  cases resolver.find? name <;> rfl

theorem forGroup_snd_eq_some_iff {name whole : Text} :
    (resolver.forGroup name whole).2 = some stat ↔
      isDiceName name = false ∧ resolver.statFor name = some stat := by
  unfold forGroup
  split
  · next dice => simp [dice]
  · next other => simp [other, forDollar_snd]

theorem isGroupOf_infix_iff :
    (∃ word, resolver.IsGroupOf stat word ∧ word <:+: text) ↔
      ∃ found ∈ parenthesisedName.findings text, isDiceName found.1 = false ∧
        resolver.statFor found.1 = some stat := by
  constructor
  · rintro ⟨_, ⟨name, spaced, rfl, around, phrase, other, answered⟩, before, after, rfl⟩
    have reads : parenthesisedName ('(' :: (spaced ++ ')' :: after)) = some (name, after) :=
      parenthesisedName_of_spaced phrase around
    have suffix : '(' :: (spaced ++ ')' :: after) <:+ before ++ '(' :: (spaced ++ [')']) ++ after :=
      ⟨before, by simp⟩
    obtain ⟨part, listed⟩ := parenthesisedName_opens.mem_scan reads suffix
    exact ⟨(name, part), Reader.mem_findings_iff.mpr listed, other, answered⟩
  · rintro ⟨⟨name, part⟩, listed, other, answered⟩
    obtain ⟨start, rest, suffix, reads, _⟩ := Reader.exists_reads_of_mem_findings listed
    obtain ⟨spaced, rfl, around, phrase⟩ := parenthesisedName_eq_some_iff.mp reads
    have first : '(' :: (spaced ++ [')']) <+: '(' :: (spaced ++ ')' :: rest) := ⟨rest, by simp⟩
    exact ⟨_, ⟨name, spaced, rfl, around, phrase, other, answered⟩,
      first.isInfix.trans suffix.isInfix⟩

theorem mem_matched_iff (plain : resolver.overrides = []) :
    stat ∈ (resolver.resolve text).matched ↔ resolver.Uses stat text := by
  simp only [resolve_eq plain, List.mem_eraseDups, List.mem_append, List.mem_filterMap,
    forDollar_snd, forGroup_snd_eq_some_iff, Uses, isGroupOf_infix_iff]

def isSeam (c : Char) : Bool := !(isNameChar c || isBlank c || c == '(' || c == ')')

theorem IsGroupOf.not_mem (group : resolver.IsGroupOf stat word) (seam : isSeam m = true) :
    m ∉ word := by
  obtain ⟨name, spaced, rfl, around, phrase, _⟩ := group
  simp only [isSeam, Bool.not_eq_true', Bool.or_eq_false_iff, beq_eq_false_iff_ne] at seam
  obtain ⟨⟨⟨unnamed, visible⟩, opens⟩, closes⟩ := seam
  have space : m ≠ ' ' := by
    rintro rfl
    cases visible
  have fresh : m ∉ spaced := around.not_mem visible (phrase.not_mem (by simp [unnamed, space]))
  simp [fresh, opens, closes]

namespace Uses

theorem exists_answer (uses : resolver.Uses stat text) :
    ∃ term, resolver.statFor term = some stat := by
  rcases uses with ⟨found, _, answered⟩ | ⟨_, ⟨name, _, _, _, _, _, answered⟩, _⟩
  · exact ⟨found.1, answered⟩
  · exact ⟨name, answered⟩

theorem before (uses : resolver.Uses stat text) (parted : Parted text tail) :
    resolver.Uses stat (text ++ tail) := by
  rcases uses with ⟨found, listed, answered⟩ | ⟨word, group, inside⟩
  · refine .inl ⟨found, ?_, answered⟩
    rw [dollarReference_findings_append parted]
    exact List.mem_append_left _ listed
  · refine .inr ⟨word, group, ?_⟩
    rw [afterDollars_append parted]
    exact inside.trans (List.prefix_append _ _).isInfix

theorem behind (uses : resolver.Uses stat tail) (parted : Parted text tail) :
    resolver.Uses stat (text ++ tail) := by
  rcases uses with ⟨found, listed, answered⟩ | ⟨word, group, inside⟩
  · refine .inl ⟨found, ?_, answered⟩
    rw [dollarReference_findings_append parted]
    exact List.mem_append_right _ listed
  · refine .inr ⟨word, group, ?_⟩
    rw [afterDollars_append parted]
    exact inside.trans (List.suffix_append _ _).isInfix

theorem of_seam (uses : resolver.Uses stat (text ++ m :: tail)) (seam : isSeam m = true)
    (alone : dollarReference (m :: tail) = none) :
    resolver.Uses stat text ∨ resolver.Uses stat tail := by
  have stops : isNameChar m = false := by
    simp only [isSeam, Bool.not_eq_true', Bool.or_eq_false_iff] at seam
    exact seam.1.1.1
  have parted : Parted text (m :: tail) :=
    parted_of_head (fun c member => by cases member; exact stops) text
  have single : dollarReference.findings (m :: tail) = dollarReference.findings tail :=
    Reader.findings_cons alone
  have after : resolver.afterDollars (m :: tail) = m :: resolver.afterDollars tail :=
    Reader.substituted_cons alone
  rcases uses with ⟨found, listed, answered⟩ | ⟨word, group, inside⟩
  · rw [dollarReference_findings_append parted, single] at listed
    rcases List.mem_append.mp listed with first | later
    · exact .inl (.inl ⟨found, first, answered⟩)
    · exact .inr (.inl ⟨found, later, answered⟩)
  · rw [afterDollars_append parted, after] at inside
    rcases Text.infix_of_mark (group.not_mem seam) inside with first | later
    · exact .inl (.inr ⟨word, group, first⟩)
    · exact .inr (.inr ⟨word, group, later⟩)

theorem of_ordinary_seam (uses : resolver.Uses stat (text ++ m :: tail)) (seam : isSeam m = true)
    (other : m ≠ '$') : resolver.Uses stat text ∨ resolver.Uses stat tail :=
  uses.of_seam seam (dollarReference_of_ne other tail)

theorem of_nil (uses : resolver.Uses stat []) : False := by
  rcases uses with ⟨_, listed, _⟩ | ⟨_, ⟨_, _, rfl, _⟩, inside⟩
  · cases listed
  · cases List.infix_nil.mp inside

theorem of_unopened (undollared : '$' ∉ text) (unopened : '(' ∉ text)
    (uses : resolver.Uses stat (text ++ tail)) : resolver.Uses stat tail := by
  have parted : Parted text tail := parted_of_not_mem undollared
  have none := Reader.findings_of_not_mem (fun _ _ => mem_of_dollarReference) undollared
  rcases uses with ⟨found, listed, answered⟩ | ⟨_, group, inside⟩
  · rw [dollarReference_findings_append parted, none] at listed
    exact .inl ⟨found, listed, answered⟩
  · rw [afterDollars_append parted, afterDollars_of_not_mem undollared] at inside
    obtain ⟨name, spaced, rfl, facts⟩ := group
    exact .inr ⟨_, ⟨name, spaced, rfl, facts⟩, Text.infix_of_start unopened inside⟩

theorem of_unclosed (parted : Parted text tail) (undollared : '$' ∉ tail) (unclosed : ')' ∉ tail)
    (uses : resolver.Uses stat (text ++ tail)) : resolver.Uses stat text := by
  have none := Reader.findings_of_not_mem (fun _ _ => mem_of_dollarReference) undollared
  rcases uses with ⟨found, listed, answered⟩ | ⟨_, group, inside⟩
  · rw [dollarReference_findings_append parted, none, List.append_nil] at listed
    exact .inl ⟨found, listed, answered⟩
  · rw [afterDollars_append parted, afterDollars_of_not_mem undollared] at inside
    obtain ⟨name, spaced, rfl, facts⟩ := group
    rw [← List.cons_append] at inside
    exact .inr ⟨_, ⟨name, spaced, rfl, facts⟩, Text.infix_of_end unclosed inside⟩

theorem trim (uses : resolver.Uses stat text) : resolver.Uses stat text.trim := by
  obtain ⟨before, starts, first⟩ := text.exists_blank_append
  obtain ⟨after, ends, last⟩ := text.trimStart.exists_append_blank
  have absent {blanks : Text} {c : Char} (blank : blanks.allBlank = true)
      (visible : isBlank c = false) : c ∉ blanks := Text.not_mem_of_allBlank visible blank
  have stops : ∀ c ∈ after.head?, isNameChar c = false := fun c member =>
    isNameChar_of_isBlank (List.all_eq_true.mp ends c (List.mem_of_head? member))
  rw [first] at uses
  have uses := uses.of_unopened (absent starts (by decide)) (absent starts (by decide))
  rw [last] at uses
  exact uses.of_unclosed (parted_of_head stops _) (absent ends (by decide))
    (absent ends (by decide))

end Uses
end Resolver
end Tabletop
