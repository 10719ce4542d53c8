import Tabletop.Proofs.Composing.Stats
import Tabletop.Proofs.Rendering.Marks
import Tabletop.Proofs.Rendering.Responses
import Tabletop.Proofs.Resolving.Lookup

/-! The stats that a response lists. They are the ones that the merged formula uses, and each of
them is put into the roll or into a block, unless it was in a value that an override replaced. -/
namespace Tabletop

def Merged.composedFragments (merged : Merged) : List Text :=
  if merged.chained then fragments merged.formula else [merged.formula]

theorem Resolver.legible_of_uses {resolver : Resolver} {stat text : Text}
    (names : ∀ entry ∈ resolver.sheet.entries, StatMarker.Legible entry.1.capitalized)
    (uses : resolver.Uses stat text) : StatMarker.Legible stat := by
  obtain ⟨term, answered⟩ := uses.exists_answer
  obtain ⟨found, answers, rfl⟩ := Option.map_eq_some_iff.mp answered
  exact names _ (StatSheet.mem_of_find? answers)

theorem Inherited.globalComment {P : Text → Prop} (inherited : Inherited P) {text comment : Text}
    (holds : P text) (same : (Engine.splitGlobalComment text).2 = some comment) : P comment := by
  unfold Engine.splitGlobalComment at same
  dsimp only at same
  split at same
  · next body rest cut =>
    obtain ⟨split, _⟩ := Text.eq_of_cutAt? cut
    obtain ⟨parts, last, parted⟩ := exists_concat_fragments text
    have whole : P last := inherited.of_mem_fragments holds (by simp [parted])
    rw [parted, List.getLastD_concat] at split
    have behind : P rest := inherited.of_part ⟨body ++ ['#'], [], by simp [split]⟩ whole
    unfold Text.unlessEmpty at same
    split at same
    · cases same
    · cases same
      exact inherited.trim behind
  · cases same

namespace Request

variable {settings : Settings} {request : Request}

def resolver (settings : Settings) (request : Request) : Resolver :=
  { sheet := request.sheet, similarity := settings.similarity }

def composedParts (request : Request) (merged : Merged) : List Text :=
  merged.composedFragments.flatMap
    (Tabletop.composedParts (if merged.chained then none else request.threshold))

def shownComment (settings : Settings) (request : Request) (outcome : Outcome) : Option Text :=
  let comment :=
    (formula? (extract request.line)).bind fun formula => (request.merged settings formula).comment
  comment <|> outcome.comment

def listedStats (settings : Settings) (request : Request) (outcome : Outcome) : List Text :=
  match request.shownComment settings outcome with
  | some comment => (StatMarker.reader.findings comment).map (·.1)
  | none => []

/-- All markers of the request are those of its stats, and no name of its formula goes on where a
block is left out or a placeholder is filled in. -/
structure Traceable (settings : Settings) (request : Request) : Prop where
  line : Unmarked request.line
  comment : ∀ text, request.comment = some text → Unmarked text
  names : ∀ entry ∈ request.sheet.entries, StatMarker.Legible entry.1.capitalized
  stem : ∀ formula, formula? (extract request.line) = some formula →
    (request.merged settings formula).comment = none →
    Unmarked (request.stem settings (request.merged settings formula))
  sealed : ∀ formula, formula? (extract request.line) = some formula →
    CriticalBlock.Sealed (request.merged settings formula).formula
  spread : request.statTotal ≠ none → ∀ formula, formula? (extract request.line) = some formula →
    ∀ part ∈ request.composedParts (request.merged settings formula), DollarsApart part

theorem merged_eq (settings : Settings) (request : Request) (formula : Text) :
    request.merged settings formula = (Merged.ofFormula formula request.comment).withMarkers
      ((request.resolver settings).resolve
        (Merged.ofFormula formula request.comment).formula).matched := rfl

theorem listedStats_eq (settings : Settings) (request : Request) (outcome : Outcome) :
    request.listedStats settings outcome =
      Comment.stats ((request.shownComment settings outcome).getD []) := by
  unfold listedStats
  cases request.shownComment settings outcome <;> rfl

theorem exists_commentLines_eq (settings : Settings) (request : Request) (outcome : Outcome) :
    ∃ free, request.commentLines settings outcome =
      free ++ Outcome.statsLine settings.language (request.listedStats settings outcome) := by
  have lines :
      request.commentLines settings outcome = match request.shownComment settings outcome with
    | some comment => Outcome.commentLines settings.language comment
    | none => [] := rfl
  rw [lines, listedStats_eq]
  cases request.shownComment settings outcome with
  | none => exact ⟨[], rfl⟩
  | some comment => exact Outcome.exists_commentLines_eq settings.language comment

theorem unmarked_of_rolled (traceable : request.Traceable settings) {faces rest : Faces}
    {response : Response}
    (done : (request.process settings).run faces = (.ok response, rest)) {formula : Text}
    (found : formula? (extract request.line) = some formula)
    (none : (request.merged settings formula).comment = none)
    {comment : Text} (own : response.outcome.comment = some comment) : Unmarked comment := by
  obtain ⟨_, _, same, rolled, _⟩ := exists_roll_of_process done
  rw [found] at same
  obtain rfl := Option.some.inj same
  rw [(Engine.rolledFrom_of_roll rolled).2.2, rollText_eq, Merged.forRoll, none] at own
  refine inherited_unmarked.globalComment (inherited_unmarked.trim ?_) own
  have spaced := inherited_unmarked.between (c := ' ') (by decide)
    (traceable.stem formula found none) Unmarked.nil
  exact inherited_unmarked.of_part (List.rdropWhile_prefix isBlank _).isInfix spaced

theorem uses_of_mem_listedStats (traceable : request.Traceable settings) {faces rest : Faces}
    {response : Response}
    (done : (request.process settings).run faces = (.ok response, rest)) {formula : Text}
    (found : formula? (extract request.line) = some formula) :
    ∀ stat ∈ request.listedStats settings response.outcome,
      (request.resolver settings).Uses stat (request.merged settings formula).formula := by
  intro stat listed
  have bare : Unmarked formula := inherited_unmarked.formula? found traceable.line
  have uses {name text : Text} : name ∈ ((request.resolver settings).resolve text).matched ↔
      (request.resolver settings).Uses name text := Resolver.mem_matched_iff rfl
  have merges := merged_eq settings request formula
  cases same : (request.merged settings formula).comment with
  | some comment =>
    have shown : request.shownComment settings response.outcome = some comment := by
      simp only [shownComment, found, Option.bind_some, same]
      rfl
    rw [listedStats_eq, shown, ← same, merges] at listed
    rw [merges]
    exact uses.mp (Merged.mem_names_of_withMarkers
      (fun name member => Resolver.legible_of_uses traceable.names (uses.mp member))
      (bare.ofFormula traceable.comment) stat listed)
  | none =>
    have shown : request.shownComment settings response.outcome = response.outcome.comment := by
      simp only [shownComment, found, Option.bind_some, same]
      rfl
    rw [listedStats_eq, shown] at listed
    cases own : response.outcome.comment with
    | none =>
      rw [own] at listed
      cases listed
    | some comment =>
      rw [own, Option.getD_some,
        (unmarked_of_rolled traceable done found same own).stats_eq] at listed
      cases listed

theorem exists_source_of_uses {resolver : Resolver} {merged : Merged} {stat : Text}
    (sealed : CriticalBlock.Sealed merged.formula)
    (spread : request.statTotal ≠ none → ∀ part ∈ request.composedParts merged, DollarsApart part)
    (uses : resolver.Uses stat merged.formula) :
    (∃ part ∈ request.composedParts merged, resolver.Uses stat (filled request.statTotal part)) ∨
      (∃ found ∈ merged.composedFragments.flatMap CriticalBlock.reader.findings,
        resolver.Uses stat found.1.value) ∨
      (merged.chained = false ∧ (request.threshold.getD []).trim ≠ [] ∧
        resolver.Uses stat (Comparator.extract (CriticalBlock.strip merged.formula)).2) := by
  have sources {threshold : Option Text} {fragment : Text}
      (listed : fragment ∈ merged.composedFragments)
      (same : (if merged.chained then none else request.threshold) = threshold)
      (inside : fragment <:+: merged.formula) (used : resolver.Uses stat fragment) :
      (∃ part ∈ request.composedParts merged, resolver.Uses stat (filled request.statTotal part)) ∨
        (∃ found ∈ merged.composedFragments.flatMap CriticalBlock.reader.findings,
          resolver.Uses stat found.1.value) ∨
        ((threshold.getD []).trim ≠ [] ∧
          resolver.Uses stat (Comparator.extract (CriticalBlock.strip fragment)).2) := by
    have within {part : Text} (member : part ∈ Tabletop.composedParts threshold fragment) :
        part ∈ request.composedParts merged :=
      List.mem_flatMap.mpr ⟨fragment, listed, same ▸ member⟩
    rcases used.composed (sealed.of_part inside) fun given part member =>
      spread given part (within member) with ⟨part, member, used⟩ | ⟨found, member, used⟩ | replaced
    · exact .inl ⟨part, within member, used⟩
    · exact .inr (.inl ⟨found, List.mem_flatMap.mpr ⟨fragment, listed, member⟩, used⟩)
    · exact .inr (.inr replaced)
  cases chained : merged.chained with
  | true =>
    have parted := fragments_eq_iff.mp (rfl : fragments merged.formula = _)
    obtain ⟨fragment, member, used⟩ := uses.of_parts parted
    rcases sources (by simpa [Merged.composedFragments, chained] using member)
      (by rw [if_pos chained]) (parted.part_of_mem member) used with part | block | ⟨given, _⟩
    · exact .inl part
    · exact .inr (.inl block)
    · exact absurd rfl given
  | false =>
    have single : (if merged.chained then none else request.threshold) = request.threshold := by
      simp [chained]
    rcases sources (by simp [Merged.composedFragments, chained]) single List.infix_rfl uses with
      part | block | replaced
    · exact .inl part
    · exact .inr (.inl block)
    · exact .inr (.inr ⟨rfl, replaced⟩)

/-- A stat that is listed was put into the body or the comparator of a roll, or into a block; the
block is one of the line if its characters stand there. The only other stats listed are those of a
comparator that an override replaced. -/
theorem listedStats_used (traceable : request.Traceable settings) {faces rest : Faces}
    {response : Response} (done : (request.process settings).run faces = (.ok response, rest)) :
    let resolver := request.resolver settings
    let stats := request.listedStats settings response.outcome
    (∃ free, response.text = Text.joined ['\n']
      (free ++ Outcome.statsLine settings.language stats ++
        response.segmentLines settings.language)) ∧
    ∃ formula, formula? (extract request.line) = some formula ∧
      let merged := request.merged settings formula
      ∀ stat ∈ stats,
        (∃ part ∈ request.composedParts merged,
          stat ∈ (resolver.resolve (filled request.statTotal part)).matched) ∨
        (∃ found ∈ merged.composedFragments.flatMap CriticalBlock.reader.findings,
          stat ∈ (resolver.resolve found.1.value).matched ∧
            (found.2 <:+: request.line →
              ∃ block ∈ (extract request.line).blocks, stat ∈
                (resolver.resolve block.value).matched)) ∨
        (merged.chained = false ∧ (request.threshold.getD []).trim ≠ [] ∧
          stat ∈ (resolver.resolve
            (Comparator.extract (CriticalBlock.strip merged.formula)).2).matched) := by
  obtain ⟨formula, _, found, _⟩ := exists_roll_of_process done
  obtain ⟨free, lines⟩ := exists_commentLines_eq settings request response.outcome
  refine ⟨⟨free, by rw [text_eq done, lines]⟩, formula, found, fun stat listed => ?_⟩
  have matched {text : Text} : stat ∈ ((request.resolver settings).resolve text).matched ↔
      (request.resolver settings).Uses stat text := Resolver.mem_matched_iff rfl
  have uses := uses_of_mem_listedStats traceable done found stat listed
  simp only [matched, extract_blocks]
  rcases exists_source_of_uses (traceable.sealed formula found)
    (fun given => traceable.spread given formula found) uses with
    part | ⟨block, member, used⟩ | replaced
  · exact .inl part
  · obtain ⟨fragment, _, spelt⟩ := List.mem_flatMap.mp member
    exact .inr (.inl ⟨block, member, used, fun inside => used.of_found_block spelt inside⟩)
  · exact .inr (.inr replaced)

def strength : Text := ['S', 't', 'r', 'e', 'n', 'g', 't', 'h']

def dexterity : Text := ['D', 'e', 'x', 't', 'e', 'r', 'i', 't', 'y']

def fightersSheet : StatSheet :=
  .ofList [(strength, ⟨12, by decide, by decide⟩), (dexterity, ⟨19, by decide, by decide⟩)]

def aimed : Request :=
  { line := ['1', 'd', '2', '0', '+', '$', '>', '=', '$', 's', 't', 'r'] ++
      ['\x7b', 'c', 's', ':', '>', '=', '$', 'd', 'e', 'x', '\x7d']
    sheet := fightersSheet
    statTotal := some ['5'] }

theorem listedStats_used_aimed :
    aimed.Traceable {} ∧ ∃ response rest,
      (aimed.process {}).run (.queue [10]) = (.ok response, rest) ∧
      aimed.listedStats {} response.outcome = [strength, dexterity] ∧
      ∀ stat ∈ aimed.listedStats {} response.outcome,
        (∃ part ∈ aimed.composedParts (aimed.merged {} aimed.line),
          stat ∈ ((aimed.resolver {}).resolve (filled aimed.statTotal part)).matched) ∨
        ∃ block ∈ (extract aimed.line).blocks,
          stat ∈ ((aimed.resolver {}).resolve block.value).matched := by
  have only : formula? (extract aimed.line) = some aimed.line := by decide +kernel
  have traceable : aimed.Traceable {} := by
    refine ⟨by decide, by simp [aimed], by decide +kernel, fun formula found => ?_,
      fun formula found => ?_, fun _ formula found => ?_⟩
    all_goals
      obtain rfl := Option.some.inj (only.symm.trans found)
      decide +kernel
  have answered : ((aimed.process {}).run (.queue [10])).1.toOption.map (fun response =>
      aimed.listedStats {} response.outcome) = some [strength, dexterity] := by decide +kernel
  refine ⟨traceable, ?_⟩
  rcases ran : (aimed.process {}).run (.queue [10]) with ⟨_ | response, rest⟩
  · rw [ran] at answered
    cases answered
  · rw [ran] at answered
    obtain ⟨_, formula, found, used⟩ := listedStats_used traceable ran
    obtain rfl := Option.some.inj (only.symm.trans found)
    have spelt : ∀ block ∈
        (aimed.merged {} aimed.line).composedFragments.flatMap CriticalBlock.reader.findings,
        block.2 <:+: aimed.line := by decide +kernel
    refine ⟨response, rest, rfl, Option.some.inj answered, fun stat listed => ?_⟩
    rcases used stat listed with part | ⟨block, member, _, lifted⟩ | ⟨_, given, _⟩
    · exact .inl part
    · exact .inr (lifted (spelt block member))
    · exact absurd rfl given

def replaced : Request :=
  { line := ['1', 'd', '2', '0', '>', '=', '$', 's', 't', 'r']
    sheet := fightersSheet
    threshold := some ['>', '=', '1', '5'] }

/-- The stat is listed, but there is none in what is rolled. -/
theorem listedStats_replaced :
    ((replaced.process {}).run (.queue [10])).1.toOption.map
        (fun response => replaced.listedStats {} response.outcome) = some [strength] ∧
      (replaced.composedParts (replaced.merged {} replaced.line)).map (fun part =>
        ((replaced.resolver {}).resolve (filled replaced.statTotal part)).matched) = [[], []] ∧
      (extract replaced.line).blocks = [] := by
  decide +kernel

end Request
end Tabletop
