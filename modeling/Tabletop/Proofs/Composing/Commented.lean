import Tabletop.Proofs.Composing.Tails

/-! Composing a fragment by itself. What composing makes of the text before a comment has no number
sign and no semicolon of its own, and the comment ends up behind all of it, whether the fragment has
a comparator or not. -/
namespace Tabletop

variable {resolver : Resolver} {statTotal : Option Text} {comment : Text} {m : Char}

theorem Sign.exists_of_append {sign : Sign} {front before value : Text}
    (unsigned : ∀ c ∈ comment, isSignChar c = false)
    (split : front ++ '#' :: comment = before ++ (sign.symbol ++ value)) :
    ∃ rest : Text, value = rest ++ '#' :: comment ∧ front = before ++ (sign.symbol ++ rest) := by
  rw [← List.append_assoc] at split
  rcases List.append_eq_append_iff.mp split with ⟨mid, whole, behind⟩ | ⟨mid, rfl, rfl⟩
  · rcases List.eq_nil_or_concat mid with rfl | ⟨start, last, rfl⟩
    · exact ⟨[], by simpa using behind.symm, by simpa using whole.symm⟩
    · have inside : last ∈ '#' :: comment := by simp [behind]
      have ends : sign.symbol.getLast? = some last := by
        have ends := congrArg List.getLast? whole
        rcases List.eq_nil_or_concat sign.symbol with empty | ⟨_, _, symbol⟩
        · exact absurd empty sign.symbol_ne_nil
        · simpa [symbol, ← List.append_assoc] using ends
      have isSign := isSignChar_of_mem_symbol (List.mem_of_getLast? ends)
      rcases List.mem_cons.mp inside with rfl | inside
      · contradiction
      · rw [unsigned last inside] at isSign
        contradiction
  · exact ⟨mid, rfl, List.append_assoc _ _ _⟩

/-- A commented fragment has no comparator, or one that takes the comment along. The comment then
has no semicolon, since the comparator would end there. -/
theorem Comparator.extract_commented {front : Text} (whole : ';' ∉ front)
    (unsigned : ∀ c ∈ comment, Sign.isSignChar c = false)
    (quiet : ';' ∈ comment → ∀ c ∈ front, Sign.isSignChar c = false) :
    extract (front ++ '#' :: comment) = (front ++ '#' :: comment, []) ∨
      ∃ (before : Text) (sign : Sign) (rest : Text), front = before ++ (sign.symbol ++ rest) ∧
        extract (front ++ '#' :: comment) =
          (before, sign.symbol ++ (rest ++ '#' :: comment).trim) := by
  cases first : inFormula.first? (front ++ '#' :: comment) with
  | none => exact .inl (extract_of_none first)
  | some found =>
    obtain ⟨start, split, reads⟩ := Reader.exists_of_first? first
    obtain ⟨taken, _⟩ := eq_of_signedValue reads
    have cut := split
    rw [taken] at cut
    obtain ⟨rest, value, rfl⟩ := Sign.exists_of_append unsigned cut
    have unparted : ';' ∉ comment := by
      intro member
      obtain ⟨c, cs, symbol, isSign, _⟩ := found.value.1.symbol_head
      have none := quiet member c (by simp [symbol])
      rw [none] at isSign
      contradiction
    have ended : found.after = [] := by
      refine rest_of_signedValue (fun member => ?_) reads
      have member : ';' ∈ (found.before ++ (found.value.1.symbol ++ rest)) ++ '#' :: comment := by
        rw [split]
        exact List.mem_append_right _ member
      simp only [List.mem_append, List.mem_cons, unparted, or_false] at member whole
      rcases member with member | member
      · exact whole member
      · contradiction
    rw [ended, List.append_nil] at value
    refine .inr ⟨found.before, found.value.1, rest, rfl, ?_⟩
    simp only [extract_of_first? first, ended, List.append_nil, value]

theorem trimEnd_commented (front comment : Text) :
    (front ++ '#' :: comment).trimEnd = front ++ '#' :: comment.trimEnd :=
  Text.trimEnd_append_visible (by decide) front comment

theorem trim_commented (front comment : Text) :
    (front ++ '#' :: comment).trim = front.trimStart ++ '#' :: comment.trimEnd := by
  rw [Text.trim, Text.trimStart_append_visible (by decide), trimEnd_commented]

theorem evaluateThreshold_commented (front comment : Text) :
    evaluateThreshold .arithmetic (front ++ '#' :: comment) = front ++ '#' :: comment := by
  have silent : Evaluator.arithmetic (front ++ '#' :: comment) = none := by
    cases reads : DiceExpr.parse (front ++ '#' :: comment) with
    | error cause => simp [Evaluator.arithmetic, arithmetic, reads, Except.toOption]
    | ok expr =>
      have fresh := DiceExpr.not_mem_of_parse reads (c := '#') (by decide) (by decide)
      simp at fresh
  simp only [evaluateThreshold, silent, ite_self]

theorem evaluateComparator_commented (front : Text)
    (unsigned : ∀ c ∈ comment, Sign.isSignChar c = false) :
    ∃ before, evaluateComparator .arithmetic (front ++ '#' :: comment) =
      before ++ '#' :: comment.trimEnd ∧ ∀ m, isAmountChar m = false → m ∉ front → m ∉ before := by
  cases reads : Clause.parse? (front ++ '#' :: comment) with
  | none =>
    refine ⟨front.trimStart, ?_, fun m _ fresh => not_mem_trimStart fresh⟩
    simp only [evaluateComparator, reads, trim_commented]
  | some clause =>
    rw [evaluateComparator_eq reads]
    have unsigned : ∀ c ∈ comment.trimEnd, Sign.isSignChar c = false :=
      fun c member => unsigned c (Text.mem_of_mem_trimEnd member)
    have stays := Text.trimEnd_trimEnd comment
    have spells := Clause.spells_of_parse? reads
    rw [trim_commented] at spells
    -- The last part of the clause is the one that takes the comment along.
    cases spells with
    | @alone value sign longest _ =>
      obtain ⟨rest, same, start⟩ :=
        Sign.exists_of_append unsigned (longest.split.trans (List.nil_append _).symm)
      obtain rfl : value = rest ++ '#' :: comment.trimEnd := by simpa using same
      refine ⟨sign.symbol ++ rest.trimStart, ?_, fun m _ fresh => ?_⟩
      · simp [Clause.evaluated, Clause.text, trim_commented, stays, evaluateThreshold_commented]
      · have fresh := not_mem_trimStart fresh
        simp only [start, List.nil_append, List.mem_append, not_or] at fresh ⊢
        exact ⟨fresh.1, not_mem_trimStart fresh.2⟩
    | @opposed value _ opposed sign other longest _ behind _ =>
      have split := longest.split
      rw [behind.split, ← List.append_assoc] at split
      obtain ⟨rest, rfl, start⟩ := Sign.exists_of_append unsigned split
      refine ⟨sign.symbol ++ evaluateThreshold .arithmetic value.trim ++
        (other.symbol ++ rest.trimStart), ?_, fun m foreign fresh => ?_⟩
      · simp [Clause.evaluated, Clause.text, trim_commented, stays, evaluateThreshold_commented]
      · have fresh := not_mem_trimStart fresh
        simp only [start, List.mem_append, not_or] at fresh ⊢
        exact ⟨⟨fresh.1.1, not_mem_evaluateThreshold foreign (not_mem_trim fresh.1.2)⟩, fresh.2.1,
          not_mem_trimStart fresh.2.2⟩

def chainRoll (resolver : Resolver) (statTotal : Option Text) (fragment : Text) : Text :=
  (compose resolver .arithmetic { statTotal } fragment).roll

theorem chainRoll_eq (resolver : Resolver) (statTotal : Option Text) (fragment : Text) :
    chainRoll resolver statTotal fragment =
      let parts := Comparator.extract (CriticalBlock.strip fragment)
      Text.trimEnd ((resolvePart resolver statTotal parts.1).trim ++
        if parts.2.isEmpty then []
        else evaluateComparator .arithmetic (resolvePart resolver statTotal parts.2)) := by
  have blank (text : Text) : (text ++ [' ']).trimEnd = text.trimEnd :=
    Text.trimEnd_append (by decide)
  simp only [chainRoll, compose, Comparator.overridden, Option.getD_none, List.append_nil, blank]
  rfl

theorem not_mem_chainRoll (plain : resolver.overrides = []) (unsigned : Sign.isSignChar m = false)
    (foreign : isAmountChar m = false) (total : ∀ text, statTotal = some text → m ∉ text)
    {fragment : Text} (fresh : m ∉ fragment) : m ∉ chainRoll resolver statTotal fragment := by
  rw [chainRoll_eq]
  intro member
  have member := Text.mem_of_mem_trimEnd member
  rcases List.mem_append.mp member with member | member
  · exact not_mem_resolvePart plain foreign total
      (Comparator.not_mem_extract_body (not_mem_strip fresh)) (Text.mem_of_mem_trim member)
  · split at member
    · cases member
    · exact not_mem_evaluateComparator unsigned foreign
        (not_mem_resolvePart plain foreign total
          (Comparator.not_mem_extract unsigned (not_mem_strip fresh))) member

/-- A comment that composing leaves where it is: it holds no mark of a comparison, block or
reference, and no semicolon when the text before it has a comparator. -/
structure Spared (body comment : Text) : Prop where
  unsigned : ∀ c ∈ comment, Sign.isSignChar c = false
  unclosed : '\x7d' ∉ comment
  undollared : '$' ∉ comment
  unopened : '(' ∉ comment
  quiet : ';' ∈ comment → ∀ c ∈ CriticalBlock.strip body, Sign.isSignChar c = false

instance (body comment : Text) : Decidable (Spared body comment) :=
  decidable_of_iff
    (comment.all (fun c => !Sign.isSignChar c) = true ∧ '\x7d' ∉ comment ∧ '$' ∉ comment ∧
      '(' ∉ comment ∧
      (';' ∈ comment → (CriticalBlock.strip body).all (fun c => !Sign.isSignChar c) = true))
    ⟨fun ⟨unsigned, unclosed, undollared, unopened, quiet⟩ =>
        ⟨by simpa using unsigned, unclosed, undollared, unopened, by simpa using quiet⟩,
      fun ⟨unsigned, unclosed, undollared, unopened, quiet⟩ =>
        ⟨by simpa using unsigned, unclosed, undollared, unopened, by simpa using quiet⟩⟩

variable (statTotal) in
theorem exists_chainRoll_commented (plain : resolver.overrides = []) {body : Text}
    (whole : ';' ∉ body) (spared : Spared body comment) :
    ∃ front, chainRoll resolver statTotal (body ++ '#' :: comment) =
      front ++ '#' :: comment.trimEnd ∧
      ∀ m, Sign.isSignChar m = false → isAmountChar m = false →
        (∀ text, statTotal = some text → m ∉ text) → m ∉ body → m ∉ front := by
  obtain ⟨unsigned, unclosed, undollared, unopened, quiet⟩ := spared
  have stays := Text.trimEnd_trimEnd comment
  rw [chainRoll_eq, CriticalBlock.strip_append_hash unclosed]
  -- The comment is behind the body when there is no comparator, and behind the comparator
  -- otherwise.
  rcases Comparator.extract_commented (not_mem_strip whole) unsigned quiet with
    extracted | ⟨before, sign, rest, split, extracted⟩
  · refine ⟨(resolvePart resolver statTotal (CriticalBlock.strip body)).trimStart, ?_,
      fun m _ foreign total fresh => ?_⟩
    · simp [extracted, resolvePart_append_hash resolver statTotal undollared unopened,
        trim_commented, trimEnd_commented, stays]
    · exact not_mem_trimStart (not_mem_resolvePart plain foreign total (not_mem_strip fresh))
  · have unsigned : ∀ c ∈ comment.trimEnd, Sign.isSignChar c = false :=
      fun c member => unsigned c (Text.mem_of_mem_trimEnd member)
    obtain ⟨after, evaluated, kept⟩ := evaluateComparator_commented
      (resolvePart resolver statTotal (sign.symbol ++ rest.trimStart)) unsigned
    have resolved : resolvePart resolver statTotal (sign.symbol ++ (rest ++ '#' :: comment).trim) =
        resolvePart resolver statTotal (sign.symbol ++ rest.trimStart) ++
          '#' :: comment.trimEnd := by
      rw [trim_commented, ← List.append_assoc]
      exact resolvePart_append_hash resolver statTotal
        (fun member => undollared (Text.mem_of_mem_trimEnd member))
        (fun member => unopened (Text.mem_of_mem_trimEnd member)) _
    refine ⟨(resolvePart resolver statTotal before).trim ++ after, ?_,
      fun m _ foreign total fresh => ?_⟩
    · have full : (sign.symbol ++ (rest ++ '#' :: comment).trim).isEmpty = false := by
        simp [sign.symbol_ne_nil]
      simp only [extracted, full, Bool.false_eq_true, if_false, resolved, evaluated, stays]
      rw [← List.append_assoc, trimEnd_commented, stays]
    · have fresh := not_mem_strip fresh
      simp only [split, List.mem_append, not_or] at fresh ⊢
      refine ⟨not_mem_trim (not_mem_resolvePart plain foreign total fresh.1), kept m foreign ?_⟩
      refine not_mem_resolvePart plain foreign total ?_
      simp [fresh.2.1, not_mem_trimStart fresh.2.2]

end Tabletop
