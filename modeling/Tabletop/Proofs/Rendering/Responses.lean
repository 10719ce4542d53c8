import Tabletop.Proofs.Composing.Commented
import Tabletop.Proofs.Rendering.Inherited
import Tabletop.Proofs.Rendering.Lines

/-! The lines of a response. The text of a response is the lines of its comment and one line for
each segment, unless a segment quotes a line feed; and a line feed that is quoted was in the line of
the request, in what replaces or is added to its parts, or in the name of a rule. -/
namespace Tabletop

namespace Comment

theorem oneLine_gather (sources : List Text) : (gather sources).OneLine := by
  refine Text.oneLine_joined (by decide) fun part member => ?_
  rcases List.mem_append.mp member with marker | text
  · obtain ⟨source, _, listed⟩ := List.mem_flatMap.mp (List.mem_eraseDups.mp marker)
    obtain ⟨⟨name, _⟩, found, rfl⟩ := List.mem_map.mp listed
    obtain ⟨rfl, readable⟩ := StatMarker.of_mem_findings found
    simp [StatMarker.mark, StatMarker.opening, StatMarker.closing,
      show name.OneLine from readable.clean]
  · obtain ⟨source, _, rfl⟩ := List.mem_map.mp (List.mem_filter.mp (List.mem_eraseDups.mp text)).1
    exact Text.oneLine_collapsed _

end Comment

theorem Merged.oneLine_forRoll (merged : Merged) (names : List Text) :
    (merged.withMarkers names).forRoll.OneLine := by
  have gathered (comment : Text) (same : (merged.withMarkers names).comment = some comment) :
      comment.OneLine := by
    simp only [withMarkers, commentOf] at same
    split at same
    · cases same
    · cases same
      split <;> simp [Comment.oneLine_gather]
  unfold forRoll
  split
  · exact Text.oneLine_nil
  · next comment same =>
    split <;> simp [gathered comment same]

namespace Request

/-- Nothing that a response takes over from the request or the settings has a line feed, comments
apart. -/
structure Plain (settings : Settings) (request : Request) : Prop where
  line : request.line.OneLine
  threshold : ∀ text, request.threshold = some text → text.OneLine
  statTotal : ∀ text, request.statTotal = some text → text.OneLine
  suffix : request.suffix.OneLine
  names : ∀ rule ∈ settings.rules, rule.name.OneLine

def commentLines (settings : Settings) (request : Request) (outcome : Outcome) : List Text :=
  let comment :=
    (formula? (extract request.line)).bind fun formula => (request.merged settings formula).comment
  match comment <|> outcome.comment with
  | some comment => Outcome.commentLines settings.language comment
  | none => []

end Request

def Response.segmentLines (language : Language) (response : Response) : List Text :=
  let before : Text := if response.outcome.isChained then "◈ ".toList else []
  Outcome.segmentLines language before response.outcome.segments response.classifications

namespace Request

variable {settings : Settings} {request : Request}

theorem oneLine_compose {resolver : Resolver} (plain : resolver.overrides = [])
    {additions : Additions} (threshold : ∀ text, additions.threshold = some text → text.OneLine)
    (statTotal : ∀ text, additions.statTotal = some text → text.OneLine) {formula : Text}
    (clean : formula.OneLine) :
    (compose resolver .arithmetic additions formula).body.OneLine ∧
      (compose resolver .arithmetic additions formula).comparator.OneLine := by
  have bare : (Comparator.overridden additions.threshold (CriticalBlock.strip formula)).OneLine :=
    Comparator.not_mem_overridden threshold (not_mem_strip clean)
  have part {text : Text} (clean : text.OneLine) :
      (resolvePart resolver additions.statTotal text).OneLine :=
    not_mem_resolvePart plain (by decide) statTotal clean
  refine ⟨(part (Comparator.not_mem_extract_body bare)).trim, ?_⟩
  simp only [compose]
  split
  · exact Text.oneLine_nil
  · exact not_mem_evaluateComparator (by decide) (by decide)
      (part (Comparator.not_mem_extract (by decide) bare))

theorem oneLine_stem (plain : request.Plain settings) {merged : Merged}
    (clean : merged.formula.OneLine) : (request.stem settings merged).OneLine := by
  unfold stem
  dsimp only
  split
  · refine Text.oneLine_joined (by decide) fun part member => ?_
    obtain ⟨fragment, listed, rfl⟩ := List.mem_map.mp member
    exact not_mem_chainRoll rfl (by decide) (by decide) plain.statTotal
      (Engine.oneLine_of_mem_fragments clean listed)
  · obtain ⟨body, comparator⟩ :=
      @oneLine_compose { sheet := request.sheet, similarity := settings.similarity } rfl
      { threshold := request.threshold, statTotal := request.statTotal,
        suffix := request.suffix } plain.threshold
      plain.statTotal _ clean
    simp [body, comparator, plain.suffix]

theorem oneLine_rollText (plain : request.Plain settings) {formula : Text}
    (clean : formula.OneLine) :
    (request.rollText settings (request.merged settings formula)).OneLine := by
  have bare : (request.merged settings formula).formula.OneLine := by
    simp only [merged, Merged.withMarkers]
    exact Text.inherited_oneLine.ofFormula clean request.comment
  have stem := oneLine_stem plain bare
  have comment : (request.merged settings formula).forRoll.OneLine := Merged.oneLine_forRoll _ _
  rw [rollText_eq]
  exact Text.OneLine.trimEnd (by simp [stem, comment])

theorem respond_eq (blocks : List CriticalBlock) (merged : Merged) (roll : Text)
    (outcome : Outcome) :
    request.respond settings blocks merged roll outcome =
      let context := request.context settings
      let classifications := outcome.segments.map
        (context.classify (context.applyBlocks blocks settings.thresholds) settings.rules)
      ⟨roll, outcome, classifications,
        outcome.render settings.language classifications merged.comment⟩ := rfl

theorem exists_roll_of_process {faces rest : Faces} {response : Response}
    (done : (request.process settings).run faces = (.ok response, rest)) :
    ∃ formula thresholds, formula? (extract request.line) = some formula ∧
      (Engine.roll settings.listLimit
        (request.rollText settings (request.merged settings formula))).run faces =
        (.ok response.outcome, rest) ∧
      response.classifications = response.outcome.segments.map
        ((request.context settings).classify thresholds settings.rules) ∧
      response.text = response.outcome.render settings.language response.classifications
        (request.merged settings formula).comment := by
  cases found : formula? (extract request.line) with
  | none =>
    simp only [process, found] at done
    cases done
  | some formula =>
    rw [process_run found] at done
    split at done
    · next outcome left rolled =>
      obtain ⟨answered, rfl⟩ := Prod.mk.inj done
      have answered := Except.ok.inj answered
      rw [respond_eq] at answered
      dsimp only at answered
      subst answered
      exact ⟨formula,
        (request.context settings).applyBlocks (extract request.line).blocks settings.thresholds,
        rfl, rolled, by dsimp only, by dsimp only⟩
    · cases done

theorem segmentLines_map (language : Language) (before : Text)
    (classify : Segment → Option Classification) (segments : List Segment) :
    Outcome.segmentLines language before segments (segments.map classify) =
      segments.map fun segment => before ++ segment.render language (classify segment) := by
  induction segments with
  | nil => rfl
  | cons segment segments ih => simp [Outcome.segmentLines, ih]

theorem oneLine_of_mem_ownLines {outcome : Outcome} {line : Text}
    (member : line ∈ request.commentLines settings outcome) : line.OneLine := by
  unfold commentLines at member
  dsimp only at member
  split at member
  · exact oneLine_of_mem_commentLines member
  · cases member

theorem oneLine_of_mem_quoted {segment : Segment} (entry : segment.entry.OneLine)
    (threshold : segment.thresholdText.OneLine)
    (comment : ∀ comment, segment.comment = some comment → comment.OneLine)
    {context : Context} {thresholds : CriticalThresholds} {rules : List CriticalRule}
    (names : ∀ rule ∈ rules, rule.name.OneLine) (language : Language) :
    ∀ text ∈ segment.quoted language (context.classify thresholds rules segment), text.OneLine := by
  intro text member
  rcases List.mem_append.mp member with own | shown
  · rcases List.mem_cons.mp own with rfl | note
    · exact entry
    · exact comment text (Option.mem_toList.mp note)
  · obtain ⟨result, classified, listed⟩ := List.mem_flatMap.mp shown
    have named := (Context.classify_tidy (Option.mem_toList.mp classified)).2
    simp only [List.mem_cons, List.not_mem_nil, or_false] at listed
    rcases listed with rfl | rfl
    · refine Label.oneLine_text (fun name same => ?_) language
      obtain ⟨rule, known, rfl⟩ := named name same
      exact names rule known
    · exact threshold

theorem text_eq {faces rest : Faces} {response : Response}
    (done : (request.process settings).run faces = (.ok response, rest)) :
    response.text = Text.joined ['\n']
      (request.commentLines settings response.outcome ++
        response.segmentLines settings.language) := by
  obtain ⟨formula, thresholds, found, _, _, text⟩ := exists_roll_of_process done
  cases shown : (request.merged settings formula).comment <|> response.outcome.comment <;>
    simp only [text, Outcome.render, commentLines, found, Option.bind_some, Response.segmentLines,
      shown]

theorem splitOn_eq_iff_quoted {faces rest : Faces} {response : Response}
    (done : (request.process settings).run faces = (.ok response, rest)) :
    response.text.splitOn '\n' =
        request.commentLines settings response.outcome ++ response.segmentLines settings.language ↔
      ∀ shown ∈ response.outcome.segments.zip response.classifications,
        ∀ text ∈ shown.1.quoted settings.language shown.2, text.OneLine := by
  obtain ⟨formula, thresholds, found, rolled, classified, _⟩ := exists_roll_of_process done
  have lines : response.segmentLines settings.language = _ :=
    (congrArg _ classified).trans (segmentLines_map _ _ _ _)
  have nonempty := (Engine.rolledFrom_of_roll rolled).2.1
  rw [text_eq done, Text.splitOn_joined_iff (by simp [lines, nonempty]), List.forall_mem_append,
    lines, classified, ← List.map_prod_left_eq_zip, List.forall_mem_map, List.forall_mem_map,
    and_iff_right fun line => oneLine_of_mem_ownLines]
  refine forall₂_congr fun segment member => ?_
  have breakdown := (Engine.oneLine_of_roll rolled segment member).1
  rw [Text.oneLine_append_iff,
    Segment.oneLine_render_iff settings.language breakdown fun result same =>
    (Context.classify_tidy same).1]
  refine and_iff_right ?_
  split <;> decide

/-- Splitting the text of a response at line feeds gives the lines of its comment and then one line
for each segment, unless a segment quotes a line feed. None does if the request and the names of the
rules have none, whatever the comment of the user is. -/
theorem splitOn_text {faces rest : Faces} {response : Response}
    (done : (request.process settings).run faces = (.ok response, rest)) :
    let lines := response.segmentLines settings.language
    lines.length = response.outcome.segments.length ∧
      (response.text.splitOn '\n' = request.commentLines settings response.outcome ++ lines ↔
        ∀ shown ∈ response.outcome.segments.zip response.classifications,
          ∀ text ∈ shown.1.quoted settings.language shown.2, '\n' ∉ text) ∧
      (request.Plain settings →
        response.text.splitOn '\n' = request.commentLines settings response.outcome ++ lines) := by
  obtain ⟨formula, thresholds, found, rolled, classified, _⟩ := exists_roll_of_process done
  refine ⟨?_, splitOn_eq_iff_quoted done, fun plain => (splitOn_eq_iff_quoted done).mpr ?_⟩
  · rw [Response.segmentLines, classified, segmentLines_map, List.length_map]
  · rw [classified, ← List.map_prod_left_eq_zip, List.forall_mem_map]
    intro segment member
    obtain ⟨entry, threshold, comment⟩ := (Engine.oneLine_of_roll rolled segment member).2
      (oneLine_rollText plain (Text.inherited_oneLine.formula? found plain.line))
    exact oneLine_of_mem_quoted entry threshold comment plain.names settings.language

def annotated : Request :=
  { line := ['1', 'd', '2', '0', '>', '=', '1', '0'],
    comment := some ['l', 'e', 'f', 't', '\n', 'e', 'y', 'e'] }

theorem splitOn_text_annotated :
    annotated.Plain {} ∧ ∃ response rest,
      (annotated.process {}).run (.queue [12]) = (.ok response, rest) ∧
      (response.segmentLines .english).length = response.outcome.segments.length ∧
      response.text.splitOn '\n' = annotated.commentLines {} response.outcome ++
        response.segmentLines .english := by
  have plain : annotated.Plain {} :=
    ⟨by decide, by simp [annotated], by simp [annotated], by decide, by simp⟩
  have answered : ((annotated.process {}).run (.queue [12])).1.toOption.isSome = true := by
    decide +kernel
  refine ⟨plain, ?_⟩
  rcases ran : (annotated.process {}).run (.queue [12]) with ⟨_ | response, rest⟩
  · rw [ran] at answered
    cases answered
  · obtain ⟨length, _, lines⟩ := splitOn_text ran
    exact ⟨response, rest, rfl, length, lines plain⟩

def broken : Request := { line := ['1', 'd', '2', '0', ' ', '+', '\n', '3'] }

/-- The one segment takes up two lines. -/
theorem text_broken :
    ((broken.process {}).run (.queue [10])).1.toOption.map (fun response =>
      ((response.text.splitOn '\n').length, broken.commentLines {} response.outcome,
        response.outcome.segments.length)) = some (2, [], 1) := by
  decide +kernel

end Request
end Tabletop
