import Tabletop.Proofs.Resolving.DiceNotation
import Tabletop.Proofs.Resolving.Printed
import Tabletop.Proofs.Resolving.Uses

/-! Whether resolving leaves anything to resolve. What takes the place of a reference is not read
again, so it can lengthen a name before it, and parentheses that held references can hold a name
afterwards; in no other way does a resolved text have a reference that a stat answers. -/
namespace Tabletop

variable {text tail start rest name : Text}

structure Dollared (name text : Text) : Prop where
  identifier : IsIdentifier name
  place : ∃ before after, text = before ++ '$' :: (name ++ after) ∧
    ∀ c ∈ after.head?, isNameChar c = false

theorem eq_of_dollarReference (reads : dollarReference start = some (name, rest)) :
    start = '$' :: (name ++ rest) ∧ IsIdentifier name ∧ ∀ c ∈ rest.head?, isNameChar c = false := by
  unfold dollarReference at reads
  split at reads
  · next c cs =>
    split at reads
    · next first =>
      cases reads
      refine ⟨by simp, ⟨⟨c, _, rfl, first⟩, ?_⟩, ?_⟩
      · intro d member
        rcases List.mem_cons.mp member with rfl | member
        · exact isNameChar_of_isNameStart first
        · exact List.mem_takeWhile_imp member
      · intro d stops
        have ends := List.head?_dropWhile_not isNameChar cs
        rw [stops] at ends
        simpa using ends
    · cases reads
  · cases reads

theorem dollared_of_reads (reads : dollarReference start = some (name, rest))
    (suffix : start <:+ text) : Dollared name text := by
  obtain ⟨rfl, identifier, stops⟩ := eq_of_dollarReference reads
  obtain ⟨before, rfl⟩ := suffix
  exact ⟨identifier, before, rest, rfl, stops⟩

namespace Resolver

variable {resolver : Resolver}

/-- No stat answers a dollar reference of the text, nor a name in parentheses that is no dice
term. -/
structure Settled (resolver : Resolver) (text : Text) : Prop where
  dollars : ∀ name, Dollared name text → resolver.find? name = none
  groups : ∀ name, Grouped name text → IsPhrase name → isDiceName name = true ∨
    resolver.find? name = none

theorem forDollar_used_eq_none_iff {whole : Text} :
    (resolver.forDollar name whole).2 = none ↔ resolver.find? name = none := by
  unfold forDollar
  cases resolver.find? name <;> simp

theorem unused_dollars_iff :
    (dollarReference.findings text).filterMap
      (fun found => (resolver.forDollar found.1 found.2).2) = [] ↔
      ∀ name, Dollared name text → resolver.find? name = none := by
  rw [List.filterMap_eq_nil_iff]
  constructor
  · rintro unused name ⟨identifier, before, after, split, stops⟩
    have reads := dollarReference_append identifier stops
    obtain ⟨part, found⟩ := dollarReference_opens.mem_scan reads ⟨before, split.symm⟩
    exact forDollar_used_eq_none_iff.mp (unused (name, part) (Reader.mem_findings_iff.mpr found))
  · rintro unknown ⟨name, part⟩ member
    obtain ⟨start, rest, suffix, reads, _⟩ := Reader.exists_reads_of_mem_findings member
    exact forDollar_used_eq_none_iff.mpr (unknown name (dollared_of_reads reads suffix))

theorem afterDollars_of_unknown
    (unknown : ∀ name, Dollared name text → resolver.find? name = none) :
    resolver.afterDollars text = text := by
  refine Reader.substituted_of_unchanged dollarReference_opens.takesPart ?_
  intro start name rest suffix reads
  simp [forDollar, unknown name (dollared_of_reads reads suffix)]

theorem resolve_eq_self_iff_settled (plain : resolver.overrides = []) :
    resolver.resolve text = ⟨text, []⟩ ↔ resolver.Settled text := by
  rw [resolve_eq plain, Resolved.mk.injEq, eraseDups_eq_nil_iff, List.append_eq_nil_iff,
    unused_dollars_iff]
  constructor
  · rintro ⟨_, dollars, unused⟩
    rw [afterDollars_of_unknown dollars, unused_iff] at unused
    exact ⟨dollars, unused⟩
  · rintro ⟨dollars, groups⟩
    rw [afterDollars_of_unknown dollars, unused_iff]
    exact ⟨groups_of_unanswered groups, dollars, groups⟩

end Resolver

theorem parenthesisedName_append {m : Char} (foreign : (isNameChar m || m == ' ') = false)
    (visible : isBlank m = false) (unclosed : m ≠ ')') (nonempty : text ≠ []) (tail : Text) :
    parenthesisedName (text ++ m :: tail) =
      (parenthesisedName text).map fun (name, rest) => (name, rest ++ m :: tail) := by
  cases reads : parenthesisedName text with
  | some reading =>
    obtain ⟨spaced, rfl, around, phrase⟩ := parenthesisedName_eq_some_iff.mp reads
    exact parenthesisedName_eq_some_iff.mpr ⟨spaced, by simp, around, phrase⟩
  | none =>
    refine Option.eq_none_iff_forall_ne_some.mpr fun ⟨name, rest⟩ more => ?_
    obtain ⟨spaced, split, around, phrase⟩ := parenthesisedName_eq_some_iff.mp more
    have fresh : m ∉ spaced ++ [')'] := by
      simp [around.not_mem visible (phrase.not_mem foreign), unclosed]
    have unread (rest : Text) (same : text = '(' :: (spaced ++ ')' :: rest)) : False := by
      rw [same, parenthesisedName_of_spaced phrase around] at reads
      cases reads
    obtain ⟨c, cs, rfl⟩ := List.exists_cons_of_ne_nil nonempty
    obtain ⟨rfl, split⟩ := List.cons.inj split
    have split : cs ++ m :: tail = (spaced ++ [')']) ++ rest := by simpa using split
    rcases List.append_eq_append_iff.mp split with ⟨inner, whole, later⟩ | ⟨inner, rfl, _⟩
    · cases inner with
      | nil => exact unread [] (by simpa using whole.symm)
      | cons d inner =>
        obtain ⟨rfl, _⟩ := List.cons.inj later
        exact fresh (by simp [whole])
    · exact unread inner (by simp)

namespace Resolver

variable {resolver : Resolver}

def afterGroups (resolver : Resolver) (text : Text) : Text :=
  parenthesisedName.substituted (fun name whole => (resolver.forGroup name whole).1) text

theorem formula_eq (plain : resolver.overrides = []) (text : Text) :
    (resolver.resolve text).formula = resolver.afterGroups (resolver.afterDollars text) := by
  rw [resolve_eq plain, afterGroups]

theorem afterGroups_cons {c : Char} (unread : parenthesisedName (c :: text) = none) :
    resolver.afterGroups (c :: text) = c :: resolver.afterGroups text :=
  Reader.substituted_cons unread

theorem afterGroups_append_of_unopened (unopened : '(' ∉ text) (tail : Text) :
    resolver.afterGroups (text ++ tail) = text ++ resolver.afterGroups tail :=
  parenthesisedName_opens.substituted_append unopened _ tail

theorem afterGroups_append {m : Char} (foreign : (isNameChar m || m == ' ') = false)
    (visible : isBlank m = false) (unclosed : m ≠ ')') (text tail : Text) :
    resolver.afterGroups (text ++ m :: tail) =
      resolver.afterGroups text ++ resolver.afterGroups (m :: tail) := by
  have spares (start : Text) (nonempty : start ≠ []) (_ : start <:+ text) :=
    parenthesisedName_append foreign visible unclosed nonempty tail
  have apart := Reader.scanFrom_append spares (Nat.zero_le _)
  simp only [afterGroups, Reader.substituted, Reader.scan, apart, List.flatMap_append]

theorem afterDollars_cons {c : Char} (unread : dollarReference (c :: text) = none) :
    resolver.afterDollars (c :: text) = c :: resolver.afterDollars text :=
  Reader.substituted_cons unread

theorem suffix_formula_of_opened (plain : resolver.overrides = []) (front : Text)
    (unread : parenthesisedName ('(' :: resolver.afterDollars tail) = none) :
    '(' :: (resolver.resolve tail).formula <:+
      (resolver.resolve (front ++ '(' :: tail)).formula := by
  have parted : Parted front ('(' :: tail) :=
    parted_of_head (fun c member => by cases member; decide) front
  rw [formula_eq plain, formula_eq plain, afterDollars_append parted,
    afterDollars_cons (dollarReference_of_ne (by decide) _),
    afterGroups_append (by decide) (by decide) (by decide),
    afterGroups_cons unread]
  exact List.suffix_append _ _

theorem suffix_formula_of_unknown (plain : resolver.overrides = []) (front : Text)
    (identifier : IsIdentifier name)
    (whole : ∀ c ∈ tail.head?, isNameChar c = false) (unknown : resolver.find? name = none) :
    '$' :: (name ++ (resolver.resolve tail).formula) <:+
      (resolver.resolve (front ++ '$' :: (name ++ tail))).formula := by
  have parted : Parted front ('$' :: (name ++ tail)) :=
    parted_of_head (fun c member => by cases member; decide) front
  have reads : dollarReference (('$' :: name) ++ tail) = some (name, tail) :=
    dollarReference_append identifier whole
  have kept : resolver.afterDollars ('$' :: (name ++ tail)) =
      '$' :: (name ++ resolver.afterDollars tail) := by
    have exchanged := Reader.substituted_of_reads (List.cons_ne_nil '$' name) reads
      fun name whole => (resolver.forDollar name whole).1
    simpa [afterDollars, forDollar, unknown] using exchanged
  rw [formula_eq plain, formula_eq plain, afterDollars_append parted, kept,
    afterGroups_append (by decide) (by decide) (by decide),
    afterGroups_cons (parenthesisedName_opens.of_ne (by decide) _),
    afterGroups_append_of_unopened (identifier.not_mem (by decide))]
  exact List.suffix_append _ _

/-- Behind a name that no stat answers, what is resolved gives characters of a name, and a stat
answers the longer one. -/
structure Lengthened (resolver : Resolver) (text front name tail : Text) : Prop where
  split : text = front ++ '$' :: (name ++ tail)
  identifier : IsIdentifier name
  whole : ∀ c ∈ tail.head?, isNameChar c = false
  unknown : resolver.find? name = none
  answered : resolver.find? (name ++ (resolver.resolve tail).formula.takeWhile isNameChar) ≠ none

/-- A parenthesis opens no name before the names behind it are resolved, and one that a stat answers
afterwards. -/
structure Gathered (resolver : Resolver) (text front tail name rest : Text) : Prop where
  split : text = front ++ '(' :: tail
  unread : parenthesisedName ('(' :: resolver.afterDollars tail) = none
  reads : parenthesisedName ('(' :: (resolver.resolve tail).formula) = some (name, rest)
  other : isDiceName name = false
  answered : resolver.find? name ≠ none

theorem dollarReference_lengthened (identifier : IsIdentifier name) (tail : Text) :
    dollarReference ('$' :: (name ++ tail)) =
      some (name ++ tail.takeWhile isNameChar, tail.dropWhile isNameChar) := by
  obtain ⟨c, cs, rfl, start⟩ := identifier.head
  have inside : ∀ d ∈ cs, isNameChar d = true :=
    fun d member => identifier.chars d (List.mem_cons_of_mem c member)
  simp [dollarReference, start, List.takeWhile_append_of_pos inside,
    List.dropWhile_append_of_pos inside]

theorem not_settled_of_lengthened (plain : resolver.overrides = []) {front : Text}
    (lengthened : resolver.Lengthened text front name tail) :
    ¬ resolver.Settled (resolver.resolve text).formula := by
  obtain ⟨rfl, identifier, whole, unknown, answered⟩ := lengthened
  intro settled
  have suffix := suffix_formula_of_unknown plain front identifier whole unknown
  exact answered
    (settled.dollars _ (dollared_of_reads (dollarReference_lengthened identifier _) suffix))

theorem not_settled_of_gathered (plain : resolver.overrides = []) {front : Text}
    (gathered : resolver.Gathered text front tail name rest) :
    ¬ resolver.Settled (resolver.resolve text).formula := by
  obtain ⟨rfl, unread, reads, other, answered⟩ := gathered
  intro settled
  obtain ⟨grouped, phrase⟩ := grouped_of_reads reads (suffix_formula_of_opened plain front unread)
  rcases settled.groups name grouped phrase with dice | unknown
  · rw [other] at dice
    cases dice
  · exact answered unknown

theorem forDollar_eq (resolver : Resolver) (name whole : Text) :
    (resolver.find? name = none ∧ (resolver.forDollar name whole).1 = whole) ∨
      ∃ n : Amount, (resolver.forDollar name whole).1 = n.operand := by
  unfold forDollar
  cases resolver.find? name with
  | none => exact .inl ⟨rfl, rfl⟩
  | some found => exact .inr ⟨found.value, rfl⟩

theorem forGroup_eq (resolver : Resolver) (name whole : Text) :
    ((isDiceName name = true ∨ resolver.find? name = none) ∧
      (resolver.forGroup name whole).1 = whole) ∨
      ∃ n : Amount, (resolver.forGroup name whole).1 = n.operand := by
  unfold forGroup
  split
  · next dice => exact .inl ⟨.inl dice, rfl⟩
  · exact (forDollar_eq resolver name whole).imp_left fun ⟨unknown, same⟩ => ⟨.inr unknown, same⟩

end Resolver

theorem Amount.head_operand (n : Amount) : ∃ c cs, n.operand = c :: cs ∧ isNameStart c = false := by
  unfold operand
  split
  · exact ⟨'(', _, rfl, by decide⟩
  · obtain ⟨c, cs, same, unnamed, _⟩ :=
      startsOperand_digit n.text_ne_nil fun c member => isDigit_of_mem_text member
    exact ⟨c, cs, same, unnamed⟩

theorem Amount.startsOperand_of_opened {n : Amount} {inner : Text}
    (suffix : '(' :: inner <:+ n.operand) : StartsOperand inner ∧ '(' ∉ inner := by
  have unopened : '(' ∉ n.text := fun member => by
    rcases isDigit_of_mem_text member with same | digit <;> contradiction
  unfold operand at suffix
  split at suffix
  · have same : inner = n.text ++ [')'] := Text.eq_of_cons_suffix_cons (by simp [unopened]) suffix
    obtain ⟨c, cs, first, facts⟩ :=
      startsOperand_digit n.text_ne_nil fun c member => isDigit_of_mem_text member
    subst same
    exact ⟨⟨c, cs ++ [')'], by rw [first]; rfl, facts⟩, by simp [unopened]⟩
  · exact absurd (suffix.subset List.mem_cons_self) unopened

namespace Resolver

variable {resolver : Resolver}

theorem eq_of_dollar_part {part : Text}
    (reads : dollarReference (part ++ rest) = some (name, rest)) : part = '$' :: name :=
  List.append_cancel_right (eq_of_dollarReference reads).1

theorem eq_of_group_part {part : Text}
    (reads : parenthesisedName (part ++ rest) = some (name, rest)) :
    ∃ spaced, part = '(' :: (spaced ++ [')']) ∧ Spaced name spaced ∧ IsPhrase name := by
  obtain ⟨spaced, split, facts⟩ := parenthesisedName_eq_some_iff.mp reads
  exact ⟨spaced, List.append_cancel_right (by simpa using split), facts⟩

theorem head_of_resolved {c : Char} (start : isNameStart c = true)
    (starts : (resolver.afterGroups (resolver.afterDollars text)).head? = some c) :
    text.head? = some c := by
  have ne {d : Char} (unnamed : isNameStart d = false) : d ≠ c := by
    rintro rfl
    rw [start] at unnamed
    cases unnamed
  refine dollarReference_opens.takesPart.head_substituted (fun name part rest reads => ?_)
    (parenthesisedName_opens.takesPart.head_substituted (fun name part rest reads => ?_) starts)
  · rcases resolver.forDollar_eq name part with ⟨_, same⟩ | ⟨n, same⟩
    · exact ⟨'$', name, same.trans (eq_of_dollar_part reads), ne (by decide)⟩
    · obtain ⟨d, ds, first, unnamed⟩ := n.head_operand
      exact ⟨d, ds, same.trans first, ne unnamed⟩
  · rcases resolver.forGroup_eq name part with ⟨_, same⟩ | ⟨n, same⟩
    · obtain ⟨spaced, split, _⟩ := eq_of_group_part reads
      exact ⟨'(', _, same.trans split, ne (by decide)⟩
    · obtain ⟨d, ds, first, unnamed⟩ := n.head_operand
      exact ⟨d, ds, same.trans first, ne unnamed⟩

theorem place_of_resolved {m : Char}
    (suffix : m :: tail <:+ resolver.afterGroups (resolver.afterDollars text)) :
    (∃ rest, m :: rest <:+ text ∧ dollarReference (m :: rest) = none ∧
      parenthesisedName (m :: resolver.afterDollars rest) = none ∧
        tail = resolver.afterGroups (resolver.afterDollars rest)) ∨
      (∃ name rest behind, '$' :: (name ++ rest) <:+ text ∧
        dollarReference ('$' :: (name ++ rest)) = some (name, rest) ∧
          m :: behind <:+ (resolver.forDollar name ('$' :: name)).1 ∧
            tail = resolver.afterGroups (behind ++ resolver.afterDollars rest)) ∨
        ∃ name spaced rest behind, Spaced name spaced ∧ IsPhrase name ∧
          m :: behind <:+ (resolver.forGroup name ('(' :: (spaced ++ [')']))).1 ∧
            tail = behind ++ resolver.afterGroups rest := by
  rcases parenthesisedName_opens.takesPart.suffix_substituted suffix with
    ⟨middle, later, unread, rfl⟩ | ⟨name, part, rest, behind, _, reads, inside, rfl⟩
  · rcases dollarReference_opens.takesPart.suffix_substituted later with
      ⟨rest, place, ordinary, rfl⟩ | ⟨name, part, rest, behind, place, reads, inside, rfl⟩
    · exact .inl ⟨rest, place, ordinary, unread, rfl⟩
    · obtain rfl := eq_of_dollar_part reads
      exact .inr (.inl ⟨name, rest, behind, place, reads, inside, rfl⟩)
  · obtain ⟨spaced, rfl, around, phrase⟩ := eq_of_group_part reads
    exact .inr (.inr ⟨name, spaced, rest, behind, around, phrase, inside, rfl⟩)

theorem place_of_dollar
    (suffix : '$' :: tail <:+ resolver.afterGroups (resolver.afterDollars text)) :
    (∃ rest, '$' :: rest <:+ text ∧ dollarReference ('$' :: rest) = none ∧
      tail = resolver.afterGroups (resolver.afterDollars rest)) ∨
      ∃ name rest, '$' :: (name ++ rest) <:+ text ∧
        dollarReference ('$' :: (name ++ rest)) = some (name, rest) ∧
        resolver.find? name = none ∧
        tail = name ++ resolver.afterGroups (resolver.afterDollars rest) := by
  have undollared (n : Amount) : '$' ∉ n.operand := n.not_mem_operand (by decide)
  rcases place_of_resolved suffix with
    ⟨rest, place, unread, _, same⟩ | ⟨name, rest, behind, place, reads, inside, rfl⟩ |
      ⟨name, spaced, _, _, around, phrase, inside, _⟩
  · exact .inl ⟨rest, place, unread, same⟩
  · have identifier := (eq_of_dollarReference reads).2.1
    rcases resolver.forDollar_eq name ('$' :: name) with ⟨unknown, kept⟩ | ⟨n, kept⟩
    · rw [kept] at inside
      obtain rfl := Text.eq_of_cons_suffix_cons (identifier.not_mem (by decide)) inside
      refine .inr ⟨behind, rest, place, reads, unknown, ?_⟩
      exact afterGroups_append_of_unopened (identifier.not_mem (by decide)) _
    · rw [kept] at inside
      exact absurd (inside.subset List.mem_cons_self) (undollared n)
  · have member := inside.subset List.mem_cons_self
    rcases resolver.forGroup_eq name ('(' :: (spaced ++ [')'])) with ⟨_, kept⟩ | ⟨n, kept⟩
    · rw [kept] at member
      have fresh : '$' ∉ spaced := around.not_mem (by decide) (phrase.not_mem (by decide))
      simp [fresh] at member
    · rw [kept] at member
      exact absurd member (undollared n)

theorem exists_lengthened (plain : resolver.overrides = [])
    (dollared : Dollared name (resolver.resolve text).formula)
    (answered : resolver.find? name ≠ none) :
    ∃ front short tail, resolver.Lengthened text front short tail := by
  obtain ⟨identifier, before, after, split, stops⟩ := dollared
  have suffix : '$' :: (name ++ after) <:+ resolver.afterGroups (resolver.afterDollars text) := by
    rw [← formula_eq plain, split]
    exact List.suffix_append _ _
  rcases place_of_dollar suffix with ⟨rest, _, unread, same⟩
    | ⟨short, rest, ⟨front, split⟩, reads, unknown, same⟩
  · obtain ⟨c, cs, rfl, start⟩ := identifier.head
    have starts : (resolver.afterGroups (resolver.afterDollars rest)).head? = some c := by
      rw [← same]
      rfl
    have first := head_of_resolved start starts
    obtain ⟨others, rfl⟩ := List.head?_eq_some_iff.mp first
    simp [dollarReference, start] at unread
  · obtain ⟨_, named, whole⟩ := eq_of_dollarReference reads
    have longer := dollarReference_lengthened named (resolver.resolve rest).formula
    rw [formula_eq plain, ← same, dollarReference_append identifier stops] at longer
    refine ⟨front, short, rest, split.symm, named, whole, unknown, ?_⟩
    rw [formula_eq plain, ← (Prod.mk.inj (Option.some.inj longer)).1]
    exact answered

theorem place_of_group (suffix : '(' :: tail <:+ resolver.afterGroups (resolver.afterDollars text))
    (reads : parenthesisedName ('(' :: tail) = some (name, rest)) :
    (isDiceName name = true ∨ resolver.find? name = none) ∨
      ∃ behind, '(' :: behind <:+ text ∧
        parenthesisedName ('(' :: resolver.afterDollars behind) = none ∧
        tail = resolver.afterGroups (resolver.afterDollars behind) := by
  -- Behind the parenthesis of an operand stands a number, so it opens no name.
  have operand {n : Amount} {inner behind : Text} (opened : '(' :: inner <:+ n.operand)
      (same : tail = inner ++ behind) : False := by
    obtain ⟨c, cs, rfl, facts⟩ := (n.startsOperand_of_opened opened).1
    rw [same, List.cons_append, parenthesisedName_of_startsOperand ⟨c, _, rfl, facts⟩] at reads
    cases reads
  rcases place_of_resolved suffix with
    ⟨behind, place, _, unread, same⟩ | ⟨short, behind, inner, _, found, inside, same⟩ |
      ⟨short, spaced, behind, inner, around, phrase, inside, same⟩
  · exact .inr ⟨behind, place, unread, same⟩
  · have identifier := (eq_of_dollarReference found).2.1
    rcases resolver.forDollar_eq short ('$' :: short) with ⟨_, kept⟩ | ⟨n, kept⟩
    · have member := (kept ▸ inside).subset List.mem_cons_self
      simp [identifier.not_mem (m := '(') (by decide)] at member
    · rw [kept] at inside
      rw [afterGroups_append_of_unopened (n.startsOperand_of_opened inside).2] at same
      exact (operand inside same).elim
  · rcases resolver.forGroup_eq short ('(' :: (spaced ++ [')'])) with ⟨unanswered, kept⟩ | ⟨n, kept⟩
    · rw [kept] at inside
      have fresh : '(' ∉ spaced ++ [')'] := by
        simp [around.not_mem (m := '(') (by decide) (phrase.not_mem (by decide))]
      obtain rfl := Text.eq_of_cons_suffix_cons fresh inside
      rw [same, List.append_assoc, List.singleton_append,
        parenthesisedName_of_spaced phrase around] at reads
      obtain rfl := (Prod.mk.inj (Option.some.inj reads)).1
      exact .inl unanswered
    · exact (operand (kept ▸ inside) same).elim

theorem exists_gathered (plain : resolver.overrides = [])
    (grouped : Grouped name (resolver.resolve text).formula)
    (phrase : IsPhrase name) (other : isDiceName name = false)
    (answered : resolver.find? name ≠ none) :
    ∃ front tail rest, resolver.Gathered text front tail name rest := by
  obtain ⟨before, spaced, after, split, around⟩ := grouped
  have reads : parenthesisedName ('(' :: (spaced ++ ')' :: after)) = some (name, after) :=
    parenthesisedName_of_spaced phrase around
  have suffix :
      '(' :: (spaced ++ ')' :: after) <:+ resolver.afterGroups (resolver.afterDollars text) := by
    rw [← formula_eq plain, split]
    exact List.suffix_append _ _
  rcases place_of_group suffix reads with (dice | unknown) | ⟨tail, ⟨front, split⟩, unread, same⟩
  · rw [other] at dice
    cases dice
  · exact absurd unknown answered
  · rw [same, ← formula_eq plain] at reads
    exact ⟨front, tail, after, split.symm, unread, reads, other, answered⟩

theorem settled_resolve_iff (plain : resolver.overrides = []) :
    resolver.Settled (resolver.resolve text).formula ↔
      (¬ ∃ front name tail, resolver.Lengthened text front name tail) ∧
        ¬ ∃ front tail name rest, resolver.Gathered text front tail name rest := by
  constructor
  · intro settled
    exact ⟨fun ⟨_, _, _, lengthened⟩ => not_settled_of_lengthened plain lengthened settled,
      fun ⟨_, _, _, _, gathered⟩ => not_settled_of_gathered plain gathered settled⟩
  · rintro ⟨short, apart⟩
    refine ⟨fun name dollared => ?_, fun name grouped phrase => ?_⟩
    · by_contra answered
      exact short (exists_lengthened plain dollared answered)
    · by_contra answered
      obtain ⟨other, known⟩ := not_or.mp answered
      obtain ⟨front, tail, rest, gathered⟩ :=
        exists_gathered plain grouped phrase (by simpa using other) known
      exact apart ⟨front, tail, name, rest, gathered⟩

/-- Without overrides, resolving leaves a reference that a stat answers exactly when it lengthens a
name to one or gathers one in parentheses; otherwise resolving again changes nothing and uses no
stat. -/
theorem resolve_resolve_exact (plain : resolver.overrides = []) (formula : Text) :
    (resolver.Settled (resolver.resolve formula).formula ↔
      (¬ ∃ front name tail, resolver.Lengthened formula front name tail) ∧
        ¬ ∃ front tail name rest, resolver.Gathered formula front tail name rest) ∧
      (resolver.resolve (resolver.resolve formula).formula =
        ⟨(resolver.resolve formula).formula, []⟩ ↔
        (¬ ∃ front name tail, resolver.Lengthened formula front name tail) ∧
          ¬ ∃ front tail name rest, resolver.Gathered formula front tail name rest) :=
  ⟨settled_resolve_iff plain, (resolve_eq_self_iff_settled plain).trans (settled_resolve_iff plain)⟩

def levelResolver : Resolver :=
  { sheet := .ofList [("Level".toList, .ofSum 1 (by decide)),
    ("Attack1".toList, .ofSum 5 (by decide))] }

theorem resolve_resolve_apart :
    let formula := "$x+$level*(zz)-((attack1))+(d1)".toList
    levelResolver.overrides = [] ∧
      levelResolver.resolve formula =
        ⟨"$x+1*(zz)-(5)+(d1)".toList, ["Level".toList, "Attack1".toList]⟩ ∧
      levelResolver.Settled "$x+1*(zz)-(5)+(d1)".toList ∧
      (¬ ∃ front name tail, levelResolver.Lengthened formula front name tail) ∧
      ¬ ∃ front tail name rest, levelResolver.Gathered formula front tail name rest := by
  intro formula
  have plain : levelResolver.overrides = [] := rfl
  have once : levelResolver.resolve formula =
      ⟨"$x+1*(zz)-(5)+(d1)".toList, ["Level".toList, "Attack1".toList]⟩ := by
    decide +kernel
  obtain ⟨settled, again⟩ := resolve_resolve_exact plain formula
  rw [once] at settled again
  have apart := again.mp (by decide +kernel)
  exact ⟨plain, once, settled.mpr apart, apart⟩

/-- What stands for the level goes on the name before it, which is then one that the other stat
answers. -/
theorem resolve_resolve_joined :
    levelResolver.overrides = [] ∧
      levelResolver.resolve "$atk$level".toList = ⟨"$atk1".toList, ["Level".toList]⟩ ∧
      levelResolver.resolve "$atk1".toList = ⟨['5'], ["Attack1".toList]⟩ ∧
      levelResolver.resolve "(atk(level))".toList = ⟨"(atk1)".toList, ["Level".toList]⟩ ∧
      levelResolver.resolve "(atk1)".toList = ⟨['5'], ["Attack1".toList]⟩ :=
  ⟨rfl, by decide +kernel⟩

end Resolver
end Tabletop
