import Tabletop.Proofs.Composing.Readings
import Tabletop.Request

/-! Comments are not rolled. Two requests that differ in their comment roll the same segments from
the same faces, as long as no semicolon of the merged comments has a roll behind it. -/
namespace Tabletop

namespace Request

def stem (settings : Settings) (request : Request) (merged : Merged) : Text :=
  let resolver : Resolver := { sheet := request.sheet, similarity := settings.similarity }
  if merged.chained then
    Text.joined [';'] ((fragments merged.formula).map fun fragment =>
      (compose resolver .arithmetic { statTotal := request.statTotal } fragment).roll)
  else
    let composed := compose resolver .arithmetic
      { threshold := request.threshold, statTotal := request.statTotal,
        suffix := request.suffix } merged.formula
    composed.body ++ request.suffix ++ composed.comparator

theorem rollText_eq (settings : Settings) (request : Request) (merged : Merged) :
    request.rollText settings merged =
      Text.trimEnd (request.stem settings merged ++ ' ' :: merged.forRoll) := by
  unfold rollText stem
  split
  · next chained => simp [composeChain]
  · next single => simp [compose]

theorem merged_formula (settings : Settings) (request : Request) (comment : Option Text)
    (formula : Text) :
    ({ request with comment }.merged settings formula).formula =
      (request.merged settings formula).formula := by
  simp only [merged, Merged.withMarkers, Merged.ofFormula]

theorem merged_chained (settings : Settings) (request : Request) (comment : Option Text)
    (formula : Text) :
    ({ request with comment }.merged settings formula).chained =
      (request.merged settings formula).chained := by
  simp only [merged, Merged.withMarkers, Merged.ofFormula]

theorem stem_comment (settings : Settings) (request : Request) (comment : Option Text)
    (formula : Text) :
    { request with comment }.stem settings ({ request with comment }.merged settings formula) =
      request.stem settings (request.merged settings formula) := by
  simp only [stem, merged_formula, merged_chained]

end Request

theorem Merged.forRoll_shape (merged : Merged) :
    merged.forRoll = [] ∨ ∃ comment, merged.forRoll = '#' :: comment := by
  unfold forRoll
  split
  · exact .inl rfl
  · next comment _ =>
    split
    · next first => exact .inr (List.head?_eq_some_iff.mp first)
    · exact .inr ⟨_, rfl⟩

namespace Request

theorem process_run {settings : Settings} {request : Request} {formula : Text}
    (found : formula? (extract request.line) = some formula) (faces : Faces) :
    (request.process settings).run faces =
      match (Engine.roll settings.listLimit
        (request.rollText settings (request.merged settings formula))).run faces with
      | (.ok outcome, rest) =>
        (.ok (request.respond settings (extract request.line).blocks
          (request.merged settings formula)
            (request.rollText settings (request.merged settings formula)) outcome), rest)
      | (.error cause, rest) => (.error (.outcome cause), rest) := by
  unfold process
  simp only [found, run_bind, run_adapt]
  rcases (Engine.roll settings.listLimit
    (request.rollText settings (request.merged settings formula))).run faces with
      ⟨_ | outcome, rest⟩ <;> rfl

/-- The segments that a request is answered with, if it is, and the faces that are left. -/
def heard (settings : Settings) (request : Request) (faces : Faces) :
    Option (List Segment) × Faces :=
  let run := (request.process settings).run faces
  (run.1.toOption.map fun response => response.outcome.segments, run.2)

def Quiet (settings : Settings) (request : Request) : Prop :=
  ∀ formula, formula? (extract request.line) = some formula →
    Inert (request.merged settings formula).forRoll

theorem heard_eq {settings : Settings} {request : Request} {formula : Text}
    (found : formula? (extract request.line) = some formula) (faces : Faces) :
    request.heard settings faces = Engine.heard ((Engine.roll settings.listLimit
      (request.rollText settings (request.merged settings formula))).run faces) := by
  simp only [heard, process_run found]
  rcases (Engine.roll settings.listLimit
    (request.rollText settings (request.merged settings formula))).run faces with
      ⟨_ | outcome, rest⟩ <;> rfl

/-- Two requests that differ in their comment are answered with the same segments, or neither is. -/
theorem heard_comment {settings : Settings} {request : Request} {comment : Option Text}
    (quiet : request.Quiet settings) (quieter : { request with comment }.Quiet settings)
    (faces : Faces) :
    { request with comment }.heard settings faces = request.heard settings faces := by
  cases found : formula? (extract request.line) with
  | none => simp only [heard, process, found]
  | some formula =>
    have other := @heard_eq settings { request with comment } formula found faces
    rw [other, heard_eq found, rollText_eq, rollText_eq]
    apply Engine.heard_congr
    rw [Engine.readings_composed _ (Merged.forRoll_shape _) (quiet formula found),
      Engine.readings_composed _ (Merged.forRoll_shape _) (quieter formula found), stem_comment]

instance (settings : Settings) (request : Request) : Decidable (request.Quiet settings) :=
  decidable_of_iff
    (∀ formula ∈ formula? (extract request.line), Inert (request.merged settings formula).forRoll)
    Iff.rfl

def noted (comment : Option Text) : Request :=
  { line := ['2', 'd', '6', ' ', '#', ' ', 'a', ';', ' ', 'b'], comment }

theorem heard_comment_noted :
    (noted none).Quiet {} ∧ (noted (some ['x', ';', 'y'])).Quiet {} ∧
      (noted (some ['x', ';', 'y'])).heard {} (.queue [5, 2]) =
        (noted none).heard {} (.queue [5, 2]) := by
  have quiet : (noted none).Quiet {} := by decide +kernel
  have quieter : (noted (some ['x', ';', 'y'])).Quiet {} := by decide +kernel
  exact ⟨quiet, quieter, heard_comment quiet quieter _⟩

/-- The comment of a request is rolled when it looks like a roll behind a semicolon. -/
theorem comment_rolled :
    heard {} { line := ['1', 'd', '2', '0'], comment := some ['h', 'i', ';', '1', 'd', '6'] }
      (.queue [10, 3]) ≠ heard {} { line := ['1', 'd', '2', '0'] } (.queue [10, 3]) := by
  intro same
  have sizes := congrArg (fun answer => answer.1.map List.length) same
  revert sizes
  decide +kernel

end Request
end Tabletop
