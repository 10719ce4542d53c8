import Tabletop.Proofs.Blocks
import Tabletop.Proofs.Composing.Resolving

/-! A comment stays behind what composing makes of the text before it. No reference reaches over a
number sign, a critical block only does when the comment closes it, and a comment without the marks
of either is left as it is. -/
namespace Tabletop

variable {comment : Text}

namespace Reader

theorem char_spares {c : Char} (other : c ≠ '#') : (char c).Spares ('#' :: comment) := by
  intro text
  cases text with
  | nil => simp [char, other.symm]
  | cons d ds =>
    simp only [List.cons_append, char]
    split <;> rfl

end Reader

theorem isNameChar_of_isNameStart {c : Char} (start : isNameStart c = true) :
    isNameChar c = true := by
  simp only [isNameStart, isNameChar, Bool.or_eq_true] at start ⊢
  rcases start with letter | underscore
  · exact .inl (.inl letter)
  · exact .inr underscore

/-- No name behind a dollar sign at the end of the text goes on in the tail. -/
def Parted (text tail : Text) : Prop :=
  ∀ name : Text, (∀ c ∈ name, isNameChar c = true) → '$' :: name <:+ text →
    ∀ c ∈ tail.head?, isNameChar c = false

theorem parted_of_head {tail : Text} (stops : ∀ c ∈ tail.head?, isNameChar c = false)
    (text : Text) : Parted text tail := fun _ _ _ => stops

theorem dollarReference_append_of_parted {text tail : Text} (parted : Parted text tail)
    (nonempty : text ≠ []) :
    dollarReference (text ++ tail) =
      (dollarReference text).map fun (name, rest) => (name, rest ++ tail) := by
  cases text with
  | nil => contradiction
  | cons c cs =>
    by_cases dollar : c = '$'
    · subst dollar
      cases cs with
      | nil =>
        cases tail with
        | nil => rfl
        | cons d tail =>
          have stops := parted [] (fun _ member => by cases member) (List.suffix_refl _) d rfl
          have unnamed : isNameStart d = false := Bool.eq_false_iff.mpr fun start => by
            rw [isNameChar_of_isNameStart start] at stops
            cases stops
          simp [dollarReference, unnamed]
      | cons d ds =>
        by_cases start : isNameStart d = true
        · have ends : (ds ++ tail).takeWhile isNameChar = ds.takeWhile isNameChar ∧
              (ds ++ tail).dropWhile isNameChar = ds.dropWhile isNameChar ++ tail := by
            by_cases all : ∀ x ∈ ds, isNameChar x = true
            · have stops :=
                parted (d :: ds) (List.forall_mem_cons.mpr ⟨isNameChar_of_isNameStart start, all⟩)
                (List.suffix_refl _)
              cases tail with
              | nil => simp
              | cons x tail => exact ⟨Text.takeWhile_append_stop (stops x rfl) ds tail,
                  Text.dropWhile_append_stop (stops x rfl) ds tail⟩
            · push Not at all
              obtain ⟨x, member, unnamed⟩ := all
              exact Text.takeWhile_append_of_mem (by simpa using unnamed) member tail
          simp only [List.cons_append, dollarReference, ends]
          split <;> rfl
        · simp [dollarReference, start]
    · rw [List.cons_append, dollarReference_of_ne dollar, dollarReference_of_ne dollar]
      rfl

theorem dollarReference_spares : dollarReference.Spares ('#' :: comment) := by
  intro text
  cases text with
  | nil => rfl
  | cons c cs =>
    have stops : ∀ d ∈ ('#' :: comment).head?, isNameChar d = false := fun d member => by
      cases member
      decide
    exact dollarReference_append_of_parted (parted_of_head stops _) (List.cons_ne_nil c cs)

theorem looseSign_spares : looseSign.Spares ('#' :: comment) := by
  intro text
  simp only [looseSign, Text.trimStart_append_visible (show isBlank '#' = false by decide)]
  cases text.trimStart with
  | nil => rfl
  | cons c rest =>
    simp only [List.cons_append, Text.trimStart_append_visible (show isBlank '#' = false by decide),
      Reader.taken_append_right]
    split <;> rfl

theorem parenthesisedName_spares : parenthesisedName.Spares ('#' :: comment) := by
  intro text
  have visible : isBlank '#' = false := by decide
  have stops : (fun c => isNameChar c || c == ' ') '#' = false := by decide
  have first := Text.takeWhile_append_stop (p := fun c => isNameChar c || c == ' ') stops
  have behind := Text.dropWhile_append_stop (p := fun c => isNameChar c || c == ' ') stops
  simp only [parenthesisedName, Reader.char_spares (show '(' ≠ '#' by decide) text]
  cases Reader.char '(' text with
  | none => rfl
  | some opened =>
    simp only [Option.map_some, Option.bind_eq_bind, Option.bind_some,
      Text.trimStart_append_visible visible]
    cases opened.2.trimStart with
    | nil => rfl
    | cons c rest =>
      simp only [List.cons_append, first, behind, Text.trimStart_append_visible visible,
        Reader.char_spares (show ')' ≠ '#' by decide) _]
      split
      · cases Reader.char ')'
          (Text.trimStart (rest.dropWhile fun c => isNameChar c || c == ' ')) <;> rfl
      · rfl

theorem parenReference_spares : parenReference.Spares ('#' :: comment) := by
  intro text
  simp only [parenReference, Reader.optional, looseSign_spares text]
  cases looseSign text with
  | none =>
    simp only [Option.map_none, Reader.map, parenthesisedName_spares text]
    cases parenthesisedName text <;> rfl
  | some signed =>
    simp only [Option.map_some, Reader.map, parenthesisedName_spares signed.2]
    cases parenthesisedName signed.2 <;> rfl

theorem mem_of_dollarReference {start : Text} {reading : Text × Text}
    (reads : dollarReference start = some reading) : '$' ∈ start := by
  unfold dollarReference at reads
  split at reads
  · exact List.mem_cons_self
  · cases reads

theorem mem_of_placeholder {start : Text} {reading : Option Char × Text}
    (reads : placeholder start = some reading) : '$' ∈ start := by
  unfold placeholder at reads
  split at reads
  · exact List.mem_cons_self
  · exact List.mem_cons_self
  · cases reads

theorem mem_of_parenthesisedName {start : Text} {reading : Text × Text}
    (reads : parenthesisedName start = some reading) : '(' ∈ start := by
  simp only [parenthesisedName, Option.bind_eq_bind, Option.bind_eq_some_iff] at reads
  obtain ⟨opened, opens, _⟩ := reads
  rw [Reader.char_eq_some_iff.mp opens]
  exact List.mem_cons_self

theorem suffix_of_looseSign {start sign rest : Text} (reads : looseSign start = some (sign, rest)) :
    rest <:+ start := by
  unfold looseSign at reads
  split at reads
  · next c behind split =>
    split at reads
    · cases reads
      have inner : Text.trimStart behind <:+ c :: behind :=
        (List.dropWhile_suffix _).trans (List.suffix_cons c behind)
      exact inner.trans (split ▸ List.dropWhile_suffix _)
    · cases reads
  · cases reads

theorem mem_of_parenReference {start : Text} {reading : (Option Text × Text) × Text}
    (reads : parenReference start = some reading) : '(' ∈ start := by
  unfold parenReference Reader.optional at reads
  cases signed : looseSign start with
  | none =>
    simp only [signed, Reader.map, Option.map_eq_some_iff] at reads
    obtain ⟨named, name, _⟩ := reads
    exact mem_of_parenthesisedName name
  | some found =>
    simp only [signed, Reader.map, Option.map_eq_some_iff] at reads
    obtain ⟨named, name, _⟩ := reads
    exact (suffix_of_looseSign signed).subset (mem_of_parenthesisedName name)

theorem fillPlaceholder_cons_of_ne {c : Char} (other : c ≠ '$') (value cs : Text) :
    fillPlaceholder value (c :: cs) = c :: fillPlaceholder value cs := by
  refine Reader.substituted_cons (Option.eq_none_iff_forall_ne_some.mpr fun reading reads => ?_)
  unfold placeholder at reads
  split at reads <;> simp_all

theorem fillPlaceholder_named {c : Char} (named : isNameChar c = true) (value cs : Text) :
    fillPlaceholder value ('$' :: c :: cs) = '$' :: fillPlaceholder value (c :: cs) :=
  Reader.substituted_cons (by simp [placeholder, named])

theorem fillPlaceholder_unnamed {c : Char} (unnamed : isNameChar c = false) (value cs : Text) :
    fillPlaceholder value ('$' :: c :: cs) = value ++ c :: fillPlaceholder value cs := by
  simp [fillPlaceholder, Reader.substituted, Reader.scan, Reader.scanFrom, placeholder, unnamed]

@[simp] theorem fillPlaceholder_alone (value : Text) : fillPlaceholder value ['$'] = value := by
  simp [fillPlaceholder, Reader.substituted, Reader.scan, Reader.scanFrom, placeholder]

/-- Filling goes on behind a character, or behind a placeholder and the character that it takes
along. -/
@[elab_as_elim] theorem fillPlaceholder_induction {motive : Text → Prop} (nil : motive [])
    (plain : ∀ c text, c ≠ '$' → motive text → motive (c :: text)) (alone : motive ['$'])
    (named : ∀ c text, isNameChar c = true → motive (c :: text) → motive ('$' :: c :: text))
    (unnamed : ∀ c text, isNameChar c = false → motive text → motive ('$' :: c :: text)) :
    (text : Text) → motive text
  | [] => nil
  | c :: text => by
    by_cases dollar : c = '$'
    · subst dollar
      cases text with
      | nil => exact alone
      | cons d rest =>
        cases starts : isNameChar d with
        | true =>
          exact named d rest starts
            (fillPlaceholder_induction nil plain alone named unnamed (d :: rest))
        | false =>
          exact unnamed d rest starts
            (fillPlaceholder_induction nil plain alone named unnamed rest)
    · exact plain c text dollar (fillPlaceholder_induction nil plain alone named unnamed text)

theorem fillPlaceholder_append_hash (value text : Text) :
    fillPlaceholder value (text ++ '#' :: comment) =
      fillPlaceholder value text ++ '#' :: fillPlaceholder value comment := by
  induction text using fillPlaceholder_induction with
  | nil => exact fillPlaceholder_cons_of_ne (by decide) value comment
  | plain c text other ih =>
    rw [List.cons_append, fillPlaceholder_cons_of_ne other, ih, fillPlaceholder_cons_of_ne other,
      List.cons_append]
  | alone =>
    rw [List.singleton_append, fillPlaceholder_unnamed (by decide), fillPlaceholder_alone]
  | named c text named ih =>
    rw [List.cons_append, List.cons_append, fillPlaceholder_named named, ← List.cons_append, ih,
      fillPlaceholder_named named, List.cons_append]
  | unnamed c text unnamed ih =>
    rw [List.cons_append, List.cons_append, fillPlaceholder_unnamed unnamed, ih,
      fillPlaceholder_unnamed unnamed, List.append_assoc, List.cons_append]

theorem Resolver.resolve_append_hash (resolver : Resolver) (undollared : '$' ∉ comment)
    (unopened : '(' ∉ comment) (text : Text) :
    (resolver.resolve (text ++ '#' :: comment)).formula =
      (resolver.resolve text).formula ++ '#' :: comment := by
  have undollared : '$' ∉ '#' :: comment := by simp [undollared]
  have unopened : '(' ∉ '#' :: comment := by simp [unopened]
  simp only [resolve, Reader.substituted_append dollarReference_spares,
    Reader.substituted_of_not_mem (fun _ _ => mem_of_dollarReference) _ undollared,
    Reader.substituted_append parenReference_spares,
    Reader.substituted_of_not_mem (fun _ _ => mem_of_parenReference) _ unopened]

theorem resolvePart_append_hash (resolver : Resolver) (statTotal : Option Text)
    (undollared : '$' ∉ comment) (unopened : '(' ∉ comment) (text : Text) :
    resolvePart resolver statTotal (text ++ '#' :: comment) =
      resolvePart resolver statTotal text ++ '#' :: comment := by
  cases statTotal with
  | none => exact resolver.resolve_append_hash undollared unopened text
  | some total =>
    have untouched : fillPlaceholder total comment = comment :=
      Reader.substituted_of_not_mem (fun _ _ => mem_of_placeholder) _ undollared
    simp only [resolvePart, fillPlaceholder_append_hash, untouched]
    exact resolver.resolve_append_hash undollared unopened _

theorem CriticalBlock.strip_append_hash (unclosed : '\x7d' ∉ comment) (text : Text) :
    strip (text ++ '#' :: comment) = strip text ++ '#' :: comment := by
  have fresh : '\x7d' ∉ '#' :: comment := by simp [unclosed]
  rw [strip_append fresh]

end Tabletop
