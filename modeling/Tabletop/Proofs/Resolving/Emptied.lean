import Tabletop.Proofs.Reading.Pieces
import Tabletop.Proofs.Resolving.References

/-! References that an empty text overrides. They go, and the signs directly before them go with
them, which leaves the total as it would be with zeros in their place as long as every reference is
a summand of its own. A factor behind a reference becomes a factor of the summand before it. -/
namespace Tabletop

open Text (room)

/-- Whether a name in parentheses refers to a name, in any case and with any accents. A dice term
refers to none. -/
def refersTo (name ref : Text) : Bool := !isDiceName ref && ref.normalized == name.normalized

def withZerosFor (name text : Text) : Text :=
  parenthesisedName.substituted (fun ref whole => if refersTo name ref then room else whole) text

def referencePieces (name text : Text) : List Piece := (parenReference.scan text).map fun
  | .plain c => .stays [c]
  | .hit (sign, ref) part => if refersTo name ref then .zero (sign.getD []) else .stays part

theorem withZeros_referencePieces (name text : Text) :
    Piece.withZeros (referencePieces name text) = withZerosFor name text := by
  rw [Piece.withZeros, referencePieces, List.flatMap_map]
  refine flatMap_scan_parenReference (fun _ => rfl) (fun sign ref part => ?_) text
  by_cases refers : refersTo name ref = true <;> simp [refers]

theorem gap_of_mem_referencePieces {name text gap : Text}
    (member : .zero gap ∈ referencePieces name text) : Gap gap := by
  obtain ⟨stretch, listed, same⟩ := List.mem_map.mp member
  have within := Reader.within_of_mem_scanFrom listed
  cases stretch with
  | plain c => cases same
  | hit reading part =>
    obtain ⟨sign, ref⟩ := reading
    obtain ⟨start, rest, _, reads, _⟩ := within
    by_cases refers : refersTo name ref = true
    · obtain ⟨_, _, gap, _⟩ := parenReference_split reads
      simp only [refers, if_true, Piece.zero.injEq] at same
      exact same ▸ gap
    · simp [refers] at same

theorem dollar_not_mem {name text : Text} (fresh : '$' ∉ withZerosFor name text) : '$' ∉ text := by
  rw [← Reader.text_scan parenthesisedName_opens.takesPart text]
  intro member
  obtain ⟨stretch, listed, inside⟩ := List.mem_flatMap.mp member
  refine fresh (List.mem_flatMap.mpr ⟨stretch, listed, ?_⟩)
  cases stretch with
  | plain c => exact inside
  | hit ref part =>
    obtain ⟨start, rest, _, reads, rfl⟩ := Reader.within_of_mem_scanFrom listed
    obtain ⟨spaced, rfl, around, phrase⟩ := parenthesisedName_eq_some_iff.mp reads
    have whole : '(' :: (spaced ++ ')' :: rest) = ('(' :: (spaced ++ [')'])) ++ rest := by simp
    have foreign : '$' ∉ spaced := around.not_mem (by decide) (phrase.not_mem (by decide))
    rw [whole, Reader.taken_append rfl] at inside
    change '$' ∈ '(' :: (spaced ++ [')']) at inside
    simp [foreign] at inside

namespace Resolver

variable {resolver : Resolver} {name text : Text}

def Silent (resolver : Resolver) (ref : Text) : Prop :=
  isDiceName ref = true ∨ resolver.overrides.lookup ref.normalized = none ∧
    resolver.find? ref = none

theorem Silent.forParen {ref : Text} (silent : resolver.Silent ref)
    (other : refersTo name ref = false) (sign : Option Text) (whole : Text) :
    ((resolver.withOverride name []).forParen sign ref whole).1 = whole := by
  unfold Resolver.forParen
  cases dice : isDiceName ref with
  | true => rfl
  | false =>
    rcases silent with isDice | ⟨unlisted, unknown⟩
    · rw [dice] at isDice
      cases isDice
    · have apart : (ref.normalized == name.normalized) = false := by
        simpa [refersTo, dice] using other
      have missing : (resolver.withOverride name []).find? ref = none := unknown
      have free : (resolver.withOverride name []).overrides.lookup ref.normalized = none := by
        simp [withOverride, List.lookup_cons, apart, unlisted]
      simp [free, missing]

theorem forParen_of_refersTo {ref : Text} (refers : refersTo name ref = true) (sign : Option Text)
    (whole : Text) : ((resolver.withOverride name []).forParen sign ref whole).1 = [] := by
  simp only [refersTo, Bool.and_eq_true, Bool.not_eq_true', beq_iff_eq] at refers
  simp [Resolver.forParen, withOverride, refers.1, refers.2]

theorem formula_withOverride_nil (undollared : '$' ∉ text)
    (others : ∀ found ∈ parenthesisedName.findings text, refersTo name found.1 = false →
      resolver.Silent found.1) :
    ((resolver.withOverride name []).resolve text).formula =
      Piece.withoutZeros (referencePieces name text) := by
  have formula : ((resolver.withOverride name []).resolve text).formula =
      parenReference.substituted (fun reading whole =>
        ((resolver.withOverride name []).forParen reading.1 reading.2 whole).1)
          ((resolver.withOverride name []).afterDollars text) := rfl
  rw [formula, afterDollars_of_not_mem undollared, Reader.substituted, referencePieces,
    Piece.withoutZeros, List.flatMap_map]
  refine congrArg List.flatten (List.map_congr_left fun stretch listed => ?_)
  cases stretch with
  | plain c => rfl
  | hit reading part =>
    obtain ⟨sign, ref⟩ := reading
    by_cases refers : refersTo name ref = true
    · simp [refers, forParen_of_refersTo refers]
    · have other : refersTo name ref = false := Bool.eq_false_iff.mpr refers
      obtain ⟨start, rest, suffix, reads, _⟩ := Reader.within_of_mem_scanFrom listed
      obtain ⟨inner, rfl, _, named⟩ := parenReference_split reads
      obtain ⟨phrase, found⟩ :=
        parenthesisedName_opens.mem_scan named ((List.suffix_append _ inner).trans suffix)
      have silent := others (ref, phrase) (Reader.mem_findings_iff.mpr found) other
      simp [refers, silent.forParen other]

/-- An empty override contributes nothing where every reference to the name is a summand of its own:
the text without the references comes to what the text with zeros in their place comes to, on every
source of faces. -/
theorem outcome_withOverride_nil {e left : DiceExpr}
    (zeros : DiceExpr.parse (withZerosFor name text) = .ok e)
    (summands : OnlySummands [] ((referencePieces name text).map Piece.lower))
    (others : ∀ found ∈ parenthesisedName.findings text, refersTo name found.1 = false →
      resolver.Silent found.1)
    (reads : DiceExpr.parse ((resolver.withOverride name []).resolve text).formula = .ok left)
    (faces : Faces) :
    left.outcome.run faces = e.outcome.run faces := by
  have undollared := dollar_not_mem (DiceExpr.not_mem_of_parse zeros (by decide) (by decide))
  rw [formula_withOverride_nil undollared others] at reads
  rw [← withZeros_referencePieces] at zeros
  rw [Piece.outcome_withoutZeros (fun gap => gap_of_mem_referencePieces) summands zeros reads]

theorem outcome_withOverride_nil_grouped :
    let text := "2*((e)-1)+(d6) + (É)".toList
    let resolver : Resolver := { sheet := .ofList [(['S', 't', 'r'], ⟨2, by decide, by decide⟩)] }
    let e : DiceExpr := .binary .add
      (.binary .add (.binary .mul (.number ⟨2, by decide, by decide⟩)
        (.binary .sub (.number ⟨0, by decide, by decide⟩) (.number ⟨1, by decide, by decide⟩)))
        (.leaf ⟨1, 6, []⟩))
      (.number ⟨0, by decide, by decide⟩)
    let left : DiceExpr := .binary .add (.binary .mul (.number ⟨2, by decide, by decide⟩)
      (.neg (.number ⟨1, by decide, by decide⟩))) (.leaf ⟨1, 6, []⟩)
    DiceExpr.parse (withZerosFor ['é'] text) = .ok e ∧
      OnlySummands [] ((referencePieces ['é'] text).map Piece.lower) ∧
      (∀ found ∈ parenthesisedName.findings text, refersTo ['é'] found.1 = false →
        resolver.Silent found.1) ∧
      ((resolver.withOverride ['é'] []).resolve text).formula = "2*(-1)+(d6)".toList ∧
      DiceExpr.parse ((resolver.withOverride ['é'] []).resolve text).formula = .ok left ∧
      ∀ faces : Faces, left.outcome.run faces = e.outcome.run faces := by
  intro text resolver e left
  have zeros : DiceExpr.parse (withZerosFor ['é'] text) = .ok e :=
    DiceExpr.parse_eq_ok_iff_parse?.mpr (by decide +kernel)
  have formula : ((resolver.withOverride ['é'] []).resolve text).formula =
      "2*(-1)+(d6)".toList := by decide +kernel
  have reads :
      DiceExpr.parse ((resolver.withOverride ['é'] []).resolve text).formula = .ok left := by
    rw [formula]
    exact DiceExpr.parse_eq_ok_iff_parse?.mpr (by decide +kernel)
  have others : ∀ found ∈ parenthesisedName.findings text, refersTo ['é'] found.1 = false →
      resolver.Silent found.1 := by
    have known : ∀ found ∈ parenthesisedName.findings text,
        refersTo ['é'] found.1 = true ∨ isDiceName found.1 = true := by decide +kernel
    intro found member other
    rcases known found member with refers | dice
    · rw [other] at refers
      cases refers
    · exact .inl dice
  have parts : (referencePieces ['é'] text).map Piece.lower =
      [.stays ['2'], .stays ['*'], .stays ['('], .zero [], .stays ['-'], .stays ['1'], .stays [')'],
        .stays "+(d6)".toList, .zero " + ".toList] := by decide +kernel
  have summands : OnlySummands [] ((referencePieces ['é'] text).map Piece.lower) := by
    rw [parts]
    refine ⟨⟨by decide +kernel, fun op => by cases op <;> decide +kernel,
      fun _ => .of_not_mem (by decide +kernel)⟩,
      ⟨by decide +kernel, fun op => by cases op <;> decide +kernel, ?_⟩, trivial⟩
    intro front
    exact absurd front (by decide +kernel)
  exact ⟨zeros, summands, others, formula, reads,
    outcome_withOverride_nil zeros summands others reads⟩

/-- What was a factor of the reference is one of the summand before it. -/
theorem emptied_factor :
    let text := "1+(b)*4".toList
    let resolver : Resolver := { sheet := .ofList [] }
    let one : DiceExpr := .number ⟨1, by decide, by decide⟩
    let four : DiceExpr := .number ⟨4, by decide, by decide⟩
    let e : DiceExpr := .binary .add one (.binary .mul (.number ⟨0, by decide, by decide⟩) four)
    let left : DiceExpr := .binary .mul one four
    DiceExpr.parse (withZerosFor ['b'] text) = .ok e ∧
      DiceExpr.parse ((resolver.withOverride ['b'] []).resolve text).formula = .ok left ∧
      ∀ faces : Faces, e.outcome.run faces = (.ok (some ⟨1, by decide, by decide⟩), faces) ∧
        left.outcome.run faces = (.ok (some ⟨4, by decide, by decide⟩), faces) :=
  ⟨DiceExpr.parse_eq_ok_iff_parse?.mpr (by decide +kernel),
    DiceExpr.parse_eq_ok_iff_parse?.mpr (by decide +kernel), fun _ => ⟨rfl, rfl⟩⟩

end Resolver

end Tabletop
