import Tabletop.Proofs.Classes
import Tabletop.Proofs.Composing.Tails

/-! References and what a resolver does with them. A sign before a reference in parentheses is read
with it but stays where it is, so only the references themselves count. -/
namespace Tabletop

structure IsIdentifier (name : Text) : Prop where
  head : ∃ c cs, name = c :: cs ∧ isNameStart c = true
  chars : ∀ c ∈ name, isNameChar c = true

theorem visible_of_isNameChar {c : Char} (named : isNameChar c = true) : isBlank c = false := by
  refine Bool.eq_false_iff.mpr fun blank => ?_
  rw [isNameChar_of_isBlank blank] at named
  cases named

theorem IsIdentifier.not_mem {name : Text} (identifier : IsIdentifier name) {m : Char}
    (foreign : isNameChar m = false) : m ∉ name := fun member => by
  rw [identifier.chars m member] at foreign
  cases foreign

theorem IsIdentifier.visible {name : Text} (identifier : IsIdentifier name) :
    ∀ c ∈ name, isBlank c = false :=
  fun c member => visible_of_isNameChar (identifier.chars c member)

theorem IsIdentifier.trimmed {name : Text} (identifier : IsIdentifier name) : name.Trimmed := by
  obtain ⟨c, cs, rfl, _⟩ := identifier.head
  exact Text.trimmed_of_visible (List.cons_ne_nil c cs) identifier.visible

theorem dollarReference_opens : dollarReference.OpensWith '$' := by
  intro text name rest reads
  unfold dollarReference at reads
  split at reads
  · next c cs =>
    split at reads
    · next start =>
      cases reads
      refine ⟨c :: cs.takeWhile isNameChar, by simp, fun member => ?_⟩
      have dollar : isNameChar '$' = false := by decide
      rcases List.mem_cons.mp member with rfl | member
      · rw [isNameChar_of_isNameStart start] at dollar
        cases dollar
      · rw [List.mem_takeWhile_imp member] at dollar
        cases dollar
    · cases reads
  · cases reads

theorem dollarReference_append {name rest : Text} (identifier : IsIdentifier name)
    (stops : ∀ c ∈ rest.head?, isNameChar c = false) :
    dollarReference ('$' :: (name ++ rest)) = some (name, rest) := by
  obtain ⟨c, cs, rfl, start⟩ := identifier.head
  have inside : ∀ d ∈ cs, isNameChar d = true :=
    fun d member => identifier.chars d (List.mem_cons_of_mem c member)
  obtain ⟨taken, left⟩ := Text.span_append inside stops
  simp [dollarReference, start, taken, left]

/-- The words that parentheses can hold: a first letter or underscore, then characters of names and
single spaces, none of them at the end. -/
structure IsPhrase (name : Text) : Prop where
  head : ∃ c cs, name = c :: cs ∧ isNameStart c = true
  chars : ∀ c ∈ name, (isNameChar c || c == ' ') = true
  stop : name.trimEnd = name

theorem IsIdentifier.phrase {name : Text} (identifier : IsIdentifier name) : IsPhrase name where
  head := identifier.head
  chars := fun c member => by rw [identifier.chars c member, Bool.true_or]
  stop := identifier.trimmed.stop

theorem IsPhrase.not_mem {name : Text} (phrase : IsPhrase name) {m : Char}
    (foreign : (isNameChar m || m == ' ') = false) : m ∉ name := fun member => by
  rw [phrase.chars m member] at foreign
  cases foreign

theorem parenthesisedName_of_spaced {name spaced rest : Text} (phrase : IsPhrase name)
    (around : Spaced name spaced) :
    parenthesisedName ('(' :: (spaced ++ ')' :: rest)) = some (name, rest) := by
  obtain ⟨before, after, starts, ends, rfl⟩ := around
  obtain ⟨c, cs, rfl, start⟩ := phrase.head
  have visible := visible_of_isNameChar (isNameChar_of_isNameStart start)
  have inside : ∀ d ∈ cs, (isNameChar d || d == ' ') = true := fun d member =>
    phrase.chars d (List.mem_cons_of_mem c member)
  have stops : (isNameChar ')' || ')' == ' ') = false := by decide
  have opened : Text.trimStart (before ++ (c :: cs ++ after) ++ ')' :: rest) =
      c :: (cs ++ (after ++ ')' :: rest)) := by
    rw [List.append_assoc, Text.trimStart_append starts, List.append_assoc, List.cons_append,
      Text.trimStart_cons visible]
  have behind : Text.allBlank (after.dropWhile fun d => isNameChar d || d == ' ') = true :=
    Text.allBlank_of_subset ends (List.dropWhile_suffix _).subset
  have within : Text.allBlank (after.takeWhile fun d => isNameChar d || d == ' ') = true :=
    Text.allBlank_of_subset ends (List.takeWhile_prefix _).subset
  have closed :
      Text.trimStart ((cs ++ (after ++ ')' :: rest)).dropWhile fun d => isNameChar d || d == ' ') =
      ')' :: rest := by
    rw [List.dropWhile_append_of_pos inside, Text.dropWhile_append_stop stops,
      Text.trimStart_append behind, Text.trimStart_cons (by decide)]
  have words : Text.trimEnd (c :: (cs ++ (after ++ ')' :: rest)).takeWhile fun d =>
      isNameChar d || d == ' ') = c :: cs := by
    rw [List.takeWhile_append_of_pos inside, Text.takeWhile_append_stop stops, ← List.cons_append,
      Text.trimEnd_append within, phrase.stop]
  simp only [parenthesisedName, Reader.char_self, Option.bind_eq_bind, Option.bind_some, opened,
    start, if_true, closed, words]

theorem isPhrase_trimEnd {c : Char} (start : isNameStart c = true) {cs : Text}
    (inside : ∀ d ∈ cs, (isNameChar d || d == ' ') = true) : IsPhrase (Text.trimEnd (c :: cs)) where
  head :=
    have visible := visible_of_isNameChar (isNameChar_of_isNameStart start)
    ⟨c, _, Text.trimEnd_append_visible visible [] cs, start⟩
  chars := by
    intro d member
    rcases List.mem_cons.mp (Text.mem_of_mem_trimEnd member) with rfl | member
    · rw [isNameChar_of_isNameStart start, Bool.true_or]
    · exact inside d member
  stop := Text.trimEnd_trimEnd _

theorem parenthesisedName_eq_some_iff {text name rest : Text} :
    parenthesisedName text = some (name, rest) ↔
      ∃ spaced, text = '(' :: (spaced ++ ')' :: rest) ∧ Spaced name spaced ∧ IsPhrase name := by
  constructor
  · intro reads
    simp only [parenthesisedName, Option.bind_eq_bind, Option.bind_eq_some_iff,
      Prod.exists] at reads
    obtain ⟨_, opened, opens, reads⟩ := reads
    obtain ⟨before, starts, whole⟩ := opened.exists_blank_append
    split at reads
    · cases reads
    · next c behind inner =>
      split at reads
      · next start =>
        simp only [Option.bind_eq_some_iff, Prod.exists, Option.some.injEq, Prod.mk.injEq] at reads
        obtain ⟨_, after, closes, rfl, rfl⟩ := reads
        obtain ⟨between, blank, gap⟩ :=
          Text.exists_blank_append (behind.dropWhile fun d => isNameChar d || d == ' ')
        obtain ⟨trailing, ends, words⟩ :=
          Text.exists_append_blank (c :: behind.takeWhile fun d => isNameChar d || d == ' ')
        have line : c :: behind = (c :: behind.takeWhile fun d => isNameChar d || d == ' ') ++
            behind.dropWhile fun d => isNameChar d || d == ' ' := by
          rw [List.cons_append, List.takeWhile_append_dropWhile]
        rw [words, gap, Reader.char_eq_some_iff.mp closes] at line
        refine ⟨before ++ (Text.trimEnd (c :: behind.takeWhile fun d => isNameChar d || d == ' ') ++
          (trailing ++ between)), ?_, ?_, isPhrase_trimEnd start fun d => List.mem_takeWhile_imp⟩
        · rw [Reader.char_eq_some_iff.mp opens, whole, inner, line]
          simp only [List.append_assoc]
        · exact ⟨before, trailing ++ between, starts, Text.allBlank_append_iff.mpr ⟨ends, blank⟩,
            rfl⟩
      · cases reads
  · rintro ⟨spaced, rfl, around, phrase⟩
    exact parenthesisedName_of_spaced phrase around

theorem parenthesisedName_opens : parenthesisedName.OpensWith '(' := by
  intro text name rest reads
  obtain ⟨spaced, rfl, around, phrase⟩ := parenthesisedName_eq_some_iff.mp reads
  have fresh : '(' ∉ spaced := around.not_mem (by decide) (phrase.not_mem (by decide))
  exact ⟨spaced ++ [')'], by simp, by simpa using fresh⟩

theorem looseSign_spaced {text sign rest : Text} (reads : looseSign text = some (sign, rest)) :
    text = sign ++ rest ∧ ∃ op : Op, op.isMultiplicative = false ∧ Spaced [op.symbol] sign := by
  unfold looseSign at reads
  obtain ⟨before, starts, whole⟩ := text.exists_blank_append
  split at reads
  · next c behind split =>
    split at reads
    · next signed =>
      cases reads
      obtain ⟨between, gap, later⟩ := Text.exists_blank_append behind
      have line : text = (before ++ ([c] ++ between)) ++ Text.trimStart behind := by
        rw [List.append_assoc, List.append_assoc, ← later, List.singleton_append, ← split]
        exact whole
      rw [Reader.taken_append line]
      refine ⟨line, ?_⟩
      simp only [Bool.or_eq_true, decide_eq_true_eq] at signed
      rcases signed with rfl | rfl
      · exact ⟨.add, rfl, before, between, starts, gap, rfl⟩
      · exact ⟨.sub, rfl, before, between, starts, gap, rfl⟩
    · cases reads
  · cases reads

theorem looseSign_of_opened (cs : Text) : looseSign ('(' :: cs) = none := by
  have start : Text.trimStart ('(' :: cs) = '(' :: cs := Text.trimStart_cons (by decide)
  simp [looseSign, start]

theorem parenReference_split {text name rest : Text} {sign : Option Text}
    (reads : parenReference text = some ((sign, name), rest)) :
    ∃ start, text = sign.getD [] ++ start ∧ Gap (sign.getD []) ∧
      parenthesisedName start = some (name, rest) := by
  unfold parenReference Reader.optional at reads
  cases signed : looseSign text with
  | none =>
    simp only [signed, Reader.map, Option.map_eq_some_iff, Prod.exists, Prod.mk.injEq] at reads
    obtain ⟨_, _, named, ⟨rfl, rfl⟩, rfl⟩ := reads
    exact ⟨text, rfl, .inl rfl, named⟩
  | some found =>
    simp only [signed, Reader.map, Option.map_eq_some_iff, Prod.exists, Prod.mk.injEq] at reads
    obtain ⟨_, _, named, ⟨rfl, rfl⟩, rfl⟩ := reads
    obtain ⟨split, spaced⟩ := looseSign_spaced signed
    exact ⟨found.2, split, .inr spaced, named⟩

theorem parenthesisedName_of_no_reference {text : Text} (fails : parenReference text = none) :
    parenthesisedName text = none := by
  refine Option.eq_none_iff_forall_ne_some.mpr fun ⟨name, rest⟩ reads => ?_
  obtain ⟨spaced, rfl, _⟩ := parenthesisedName_eq_some_iff.mp reads
  simp [parenReference, Reader.optional, looseSign_of_opened, Reader.map, reads] at fails

theorem parenReference_takesPart : parenReference.TakesPart := by
  rintro text ⟨sign, name⟩ rest found
  obtain ⟨start, split, _, reads⟩ := parenReference_split found
  obtain ⟨inner, rfl, _⟩ := parenthesisedName_opens _ _ _ reads
  exact ⟨sign.getD [] ++ '(' :: inner, by simp, by simp [split]⟩

theorem flatMap_scan_parenReference {f : Stretch (Option Text × Text) → List α}
    {g : Stretch Text → List α} (plain : ∀ c, f (.plain c) = g (.plain c))
    (hit : ∀ (sign : Option Text) (name part : Text), f (.hit (sign, name) (sign.getD [] ++ part)) =
      (sign.getD []).flatMap (fun c => g (.plain c)) ++ g (.hit name part)) (text : Text) :
    (parenReference.scan text).flatMap f = (parenthesisedName.scan text).flatMap g := by
  induction text using parenReference_takesPart.scan_induction with
  | nil => rfl
  | plain c cs unread ih =>
    rw [Reader.scan_of_none unread, Reader.scan_of_none (parenthesisedName_of_no_reference unread),
      List.flatMap_cons, List.flatMap_cons, plain, ih]
  | hit reading part rest nonempty found ih =>
    obtain ⟨sign, name⟩ := reading
    obtain ⟨start, split, gap, reads⟩ := parenReference_split found
    have unopened : '(' ∉ sign.getD [] := gap.not_mem (by decide) fun op => by cases op <;> decide
    obtain ⟨inner, rfl, _⟩ := parenthesisedName_opens _ _ _ reads
    obtain rfl : part = sign.getD [] ++ '(' :: inner :=
      List.append_cancel_right (by simpa using split)
    have apart : parenthesisedName.scan ((sign.getD [] ++ '(' :: inner) ++ rest) =
        (sign.getD []).map .plain ++ .hit name ('(' :: inner) :: parenthesisedName.scan rest := by
      rw [split, parenthesisedName_opens.scan_append unopened]
      exact congrArg _ (Reader.scan_of_reads (List.cons_ne_nil '(' inner) reads)
    rw [Reader.scan_of_reads nonempty found, apart, List.flatMap_cons, hit, ih]
    simp [List.flatMap_map]

theorem Reader.filterMap_findings (reader : Reader α) (use : α × Text → Option β) (text : Text) :
    (reader.findings text).filterMap use = (reader.scan text).flatMap fun
      | .plain _ => []
      | .hit value part => (use (value, part)).toList := by
  rw [findings, List.filterMap_filterMap, List.filterMap_eq_flatMap_toList]
  congr 1
  funext stretch
  cases stretch <;> rfl

theorem eraseDups_eq_nil_iff {names : List Text} : names.eraseDups = [] ↔ names = [] := by
  cases names <;> simp [List.eraseDups_cons]

namespace Resolver

variable {resolver : Resolver}

def forGroup (resolver : Resolver) (name whole : Text) : Text × Option Text :=
  if isDiceName name then (whole, none) else resolver.forDollar name whole

theorem forParen_append (plain : resolver.overrides = []) (sign : Option Text) (name part : Text) :
    resolver.forParen sign name (sign.getD [] ++ part) =
      (sign.getD [] ++ (resolver.forGroup name part).1, (resolver.forGroup name part).2) := by
  simp only [forParen, forGroup, forDollar, plain, List.lookup_nil]
  split
  · rfl
  · split <;> rfl

def afterDollars (resolver : Resolver) (text : Text) : Text :=
  dollarReference.substituted (fun name whole => (resolver.forDollar name whole).1) text

theorem afterDollars_of_not_mem {text : Text} (undollared : '$' ∉ text) :
    resolver.afterDollars text = text :=
  Reader.substituted_of_not_mem (fun _ _ => mem_of_dollarReference) _ undollared

theorem resolve_eq (plain : resolver.overrides = []) (text : Text) :
    resolver.resolve text =
      ⟨parenthesisedName.substituted
        (fun name whole => (resolver.forGroup name whole).1) (resolver.afterDollars text),
        ((dollarReference.findings text).filterMap
          (fun found => (resolver.forDollar found.1 found.2).2) ++
          (parenthesisedName.findings (resolver.afterDollars text)).filterMap fun found =>
            (resolver.forGroup found.1 found.2).2).eraseDups⟩ := by
  have formula : parenReference.substituted (fun reading whole =>
      (resolver.forParen reading.1 reading.2 whole).1) (resolver.afterDollars text) =
        parenthesisedName.substituted (fun name whole => (resolver.forGroup name whole).1)
          (resolver.afterDollars text) :=
    flatMap_scan_parenReference (fun _ => rfl)
      (fun sign name part => by simp [forParen_append plain]) _
  have used : (parenReference.findings (resolver.afterDollars text)).filterMap
      (fun found => (resolver.forParen found.1.1 found.1.2 found.2).2) =
        (parenthesisedName.findings (resolver.afterDollars text)).filterMap fun found =>
          (resolver.forGroup found.1 found.2).2 := by
    rw [Reader.filterMap_findings, Reader.filterMap_findings]
    exact flatMap_scan_parenReference (fun _ => rfl)
      (fun sign name part => by simp [forParen_append plain]) _
  rw [← formula, ← used]
  rfl

end Resolver
end Tabletop
