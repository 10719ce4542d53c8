import Tabletop.Proofs.Composing.Readings
import Tabletop.Proofs.Composing.Thresholds

/-! What a rolled segment says of the text it was rolled from: its entry and its comment are parts
of the text, and its comparator answers the clause that the text has, if it has one. -/
namespace Tabletop.Engine

def AnswersText (comparator : Option Comparator) (text : Text) : Prop :=
  (text = [] ∧ comparator = none) ∨
    text ≠ [] ∧ ∃ answer clause, comparator = some answer ∧ Clause.parse? text = some clause ∧
      Answers answer clause

/-- The segment that a fragment with this body and comment is rolled to. -/
structure Rolls (body : Text) (comment : Option Text) (segment : Segment) : Prop where
  entry : segment.entry = (Comparator.extract body).1.trim
  comparator : AnswersText segment.comparator (Comparator.extract body).2
  comment : segment.comment = comment

section Bodies

variable {limit : Option Nat} {faces rest : Faces}

theorem comparator?_run_eq_ok {raw : Text} {comparator : Option Comparator}
    (done : (comparator? limit raw).run faces = (.ok comparator, rest)) :
    (raw = [] ∧ comparator = none) ∨
      raw ≠ [] ∧ ∃ answer, comparator = some answer ∧
        (Engine.comparator limit raw).run faces = (.ok answer, rest) := by
  unfold comparator? at done
  split at done
  · next empty =>
    cases done
    exact .inl ⟨List.isEmpty_iff.mp empty, rfl⟩
  · next full =>
    obtain ⟨answer, last, compared, done⟩ := bind_run_eq_ok done
    cases done
    exact .inr ⟨by simpa using full, answer, rfl, compared⟩

theorem rollBody_run_eq_ok {comment : Option Text} {body : Text} {segment : Segment}
    (done : (rollBody limit comment body).run faces = (.ok segment, rest)) :
    ∃ expr rolled mid, DiceExpr.parse (Comparator.extract body).1.trim = .ok expr ∧
      (evaluate expr).run faces = (.ok (rolled, segment.total), mid) ∧
      (comparator? limit (Comparator.extract body).2).run mid = (.ok segment.comparator, rest) ∧
      segment.entry = (Comparator.extract body).1.trim ∧ segment.breakdown = rolled.text limit ∧
      segment.natural = rolled.natural ∧ segment.comment = comment := by
  unfold rollBody at done
  dsimp only at done
  split at done
  · cases done
  · cases reads : DiceExpr.parse (Comparator.extract body).1.trim with
    | error cause =>
      simp only [reads] at done
      cases done
    | ok expr =>
      simp only [reads] at done
      obtain ⟨⟨rolled, total⟩, mid, evaluated, done⟩ := bind_run_eq_ok done
      obtain ⟨comparator, last, compared, done⟩ := bind_run_eq_ok done
      cases done
      exact ⟨expr, rolled, mid, rfl, evaluated, compared, rfl, rfl, rfl, rfl⟩

end Bodies

theorem answersText_of_comparator? {limit : Option Nat} {raw : Text}
    {comparator : Option Comparator} {faces rest : Faces}
    (done : (comparator? limit raw).run faces = (.ok comparator, rest)) :
    AnswersText comparator raw := by
  rcases comparator?_run_eq_ok done with absent | ⟨full, answer, same, compared⟩
  · exact .inl absent
  · obtain ⟨clause, reads, answers⟩ := answers_of_comparator compared
    exact .inr ⟨full, answer, clause, same, reads, answers⟩

theorem rolls_of_rollBody {limit : Option Nat} {comment : Option Text} {body : Text}
    {segment : Segment} {faces rest : Faces}
    (done : (rollBody limit comment body).run faces = (.ok segment, rest)) :
    Rolls body comment segment := by
  obtain ⟨_, _, _, _, _, compared, entry, _, _, noted⟩ := rollBody_run_eq_ok done
  exact ⟨entry, answersText_of_comparator? compared, noted⟩

def bodyWith (firstTotal : Option Amount) (body : Text) : Text :=
  match firstTotal with
  | some total => withFirstTotal total body
  | none => body

theorem rolls_of_fragment {limit : Option Nat} {firstTotal : Option Amount} {text : Text}
    {segment : Segment} {faces rest : Faces}
    (done : (fragment limit firstTotal text).run faces = (.ok segment, rest)) :
    Rolls (bodyWith firstTotal (splitComment text).1) (splitComment text).2 segment := by
  cases firstTotal with
  | some total => exact rolls_of_rollBody done
  | none =>
    simp only [fragment] at done
    split at done
    · cases done
    · exact rolls_of_rollBody done

/-- The segments that texts are rolled to, one for each of them: references are to `firstTotal`, or
else to the total of the first segment. -/
inductive RolledFrom : Option Amount → List Text → List Segment → Prop where
  | nil {firstTotal : Option Amount} : RolledFrom firstTotal [] []
  | cons {firstTotal : Option Amount} {text : Text} {segment : Segment} {texts : List Text}
      {segments : List Segment} :
      Rolls (bodyWith firstTotal (splitComment text).1) (splitComment text).2 segment →
        RolledFrom (firstTotal <|> some segment.total) texts segments →
          RolledFrom firstTotal (text :: texts) (segment :: segments)

theorem rolledFrom_of_segments {limit : Option Nat} {firstTotal : Option Amount} {texts : List Text}
    {rolled : List Segment} {faces rest : Faces}
    (done : (segments limit firstTotal texts).run faces = (.ok rolled, rest)) :
    RolledFrom firstTotal texts rolled := by
  induction texts generalizing firstTotal rolled faces with
  | nil =>
    cases done
    exact .nil
  | cons text texts ih =>
    obtain ⟨segment, mid, first, done⟩ := bind_run_eq_ok done
    obtain ⟨others, last, later, done⟩ := bind_run_eq_ok done
    cases done
    exact .cons (rolls_of_fragment first) (ih later)

theorem rolledFrom_of_roll {limit : Option Nat} {text : Text} {faces rest : Faces}
    {outcome : Outcome} (done : (roll limit text).run faces = (.ok outcome, rest)) :
    RolledFrom none ((splitGlobalComment text.trim).1.filter fun part =>
      !part.allBlank) outcome.segments ∧ outcome.segments ≠ [] ∧
        outcome.comment = (splitGlobalComment text.trim).2 := by
  rw [roll_run] at done
  split at done
  · next rolled left ran =>
    split at done
    · cases done
    · next some =>
      cases done
      exact ⟨rolledFrom_of_segments ran, by simpa using some, rfl⟩
  · cases done

end Tabletop.Engine
