import Tabletop.Proofs.Merging.Marked
import Tabletop.Proofs.Rendering.Inherited

/-! The names in a comment. No name is read from a text in which no marker starts. When stats are
added to a comment their markers come first, so each of them is read back before all others. -/
namespace Tabletop

variable {text : Text}

namespace Text

variable {word : Text}

theorem prefix_of_collapsed (visible : ∀ c ∈ word, isBlank c = false)
    (first : word <+: text.collapsed) : word <+: text := by
  induction text generalizing word with
  | nil => exact first
  | cons c cs ih =>
    cases word with
    | nil => exact List.nil_prefix
    | cons d word =>
      have start := visible d List.mem_cons_self
      unfold collapsed at first
      split at first
      · split at first
        · next more =>
          -- The next character is a blank again, so the word would start with it.
          obtain ⟨rest, rfl⟩ := ih visible first
          simp [start] at more
        · obtain ⟨rfl, _⟩ := List.cons_prefix_cons.mp first
          cases start
      · obtain ⟨rfl, others⟩ := List.cons_prefix_cons.mp first
        exact List.cons_prefix_cons.mpr ⟨rfl,
          ih (fun e member => visible e (List.mem_cons_of_mem _ member)) others⟩

theorem part_of_collapsed (visible : ∀ c ∈ word, isBlank c = false) (nonempty : word ≠ [])
    (inside : word <:+: text.collapsed) : word <:+: text := by
  induction text with
  | nil => exact inside
  | cons c cs ih =>
    have later (inside : word <:+: collapsed cs) : word <:+: c :: cs :=
      (ih inside).trans (List.suffix_cons c cs).isInfix
    by_cases blank : isBlank c = true
    · unfold collapsed at inside
      rw [if_pos blank] at inside
      split at inside
      · exact later inside
      · rcases List.infix_cons_iff.mp inside with first | inside
        · obtain ⟨d, word, rfl⟩ := List.exists_cons_of_ne_nil nonempty
          obtain ⟨rfl, _⟩ := List.cons_prefix_cons.mp first
          cases visible ' ' List.mem_cons_self
        · exact later inside
    · have split : collapsed (c :: cs) = c :: collapsed cs := by rw [collapsed, if_neg blank]
      rcases List.infix_cons_iff.mp (split ▸ inside) with first | inside
      · exact (prefix_of_collapsed visible (split ▸ first)).isInfix
      · exact later inside

end Text

def Unmarked (text : Text) : Prop := ¬ StatMarker.opening <:+: text

instance (text : Text) : Decidable (Unmarked text) := inferInstanceAs (Decidable (¬ _))

namespace Unmarked

theorem reader_eq_none (unmarked : Unmarked text) {start : Text} (suffix : start <:+ text) :
    StatMarker.reader start = none := by
  refine Option.eq_none_iff_forall_ne_some.mpr fun ⟨name, rest⟩ reads => unmarked ?_
  obtain ⟨split, _⟩ := StatMarker.reader_eq_some_iff.mp reads
  have opens : StatMarker.opening <+: start :=
    ⟨name ++ StatMarker.closing ++ rest, by simp [split, StatMarker.mark]⟩
  exact opens.isInfix.trans suffix.isInfix

theorem stats_eq (unmarked : Unmarked text) : Comment.stats text = [] := by
  refine List.map_eq_nil_iff.mpr (List.eq_nil_iff_forall_not_mem.mpr fun found listed => ?_)
  obtain ⟨start, rest, suffix, reads, _⟩ := Reader.exists_reads_of_mem_findings listed
  rw [unmarked.reader_eq_none suffix] at reads
  cases reads

theorem erased_eq (unmarked : Unmarked text) : StatMarker.reader.erased text = text :=
  Comment.erased_of_stats_eq_nil unmarked.stats_eq

end Unmarked

theorem StatMarker.visible_opening : ∀ c ∈ opening, isBlank c = false := by
  intro c known
  simp only [opening, List.mem_cons, List.not_mem_nil, or_false] at known
  rcases known with rfl | rfl | rfl | rfl | rfl <;> decide

theorem inherited_unmarked : Inherited Unmarked where
  of_part part unmarked inside := unmarked (inside.trans part)
  between {c _ _} known before after inside := by
    have fresh : c ∉ StatMarker.opening := by
      simp only [List.mem_cons, List.not_mem_nil, or_false] at known
      rcases known with rfl | rfl | rfl <;> decide
    exact (Text.infix_of_mark fresh inside).elim before after
  collapsed unmarked inside :=
    unmarked (Text.part_of_collapsed StatMarker.visible_opening (List.cons_ne_nil _ _) inside)
  erased unmarked := by
    rw [unmarked.erased_eq]
    exact unmarked

namespace Inherited

variable {P : Text → Prop} {sources : List Text}

section
variable (inherited : Inherited P)
include inherited

theorem plainText (holds : P text) : P (Comment.plainText text) :=
  inherited.collapsed (inherited.trim (inherited.of_part (List.dropWhile_suffix _).isInfix
    (inherited.trim (inherited.erased holds))))

theorem commentOf {chained : Bool} {comment : Text} (gathered : P (Comment.gather sources))
    (same : Merged.commentOf chained sources = some comment) : P comment := by
  unfold Merged.commentOf at same
  dsimp only at same
  split at same
  · cases same
  · obtain rfl := Option.some.inj same
    split
    · have spaced := inherited.between (c := ' ') (by decide) (inherited.nil gathered) gathered
      exact inherited.between (c := '#') (by decide) (inherited.nil gathered) spaced
    · exact gathered

end
end Inherited

namespace Unmarked

theorem nil : Unmarked [] := by decide

theorem gather {sources : List Text} (unmarked : ∀ source ∈ sources, Unmarked source) :
    Unmarked (Comment.gather sources) := by
  have none : Comment.listed sources = [] := by
    rw [Comment.listed, List.flatMap_eq_nil_iff.mpr fun source member =>
      (unmarked source member).stats_eq]
    rfl
  rw [Comment.gather_eq, none, Comment.marked, Comment.freeText]
  refine inherited_unmarked.joined (by decide) nil fun part member => ?_
  obtain ⟨source, given, rfl⟩ :=
    List.mem_map.mp (List.mem_filter.mp (List.mem_eraseDups.mp member)).1
  exact inherited_unmarked.plainText (unmarked source given)

theorem ofFormula {formula : Text} (unmarked : Unmarked formula) {comment : Option Text}
    (user : ∀ text, comment = some text → Unmarked text) :
    Unmarked ((Merged.ofFormula formula comment).comment.getD []) := by
  obtain ⟨body, own⟩ := inherited_unmarked.splitComment nil fun part member =>
    inherited_unmarked.of_mem_fragments unmarked member
  have absent : Comment.markersOf (Merged.splitComment (fragments formula)).1 = [] := by
    rw [Comment.markersOf_eq, body.stats_eq, List.map_nil]
  have given {text : Option Text} (each : ∀ comment, text = some comment → Unmarked comment) :
      Unmarked (text.getD []) := by
    cases text with
    | none => exact nil
    | some comment => exact each comment rfl
  simp only [Merged.ofFormula, absent]
  refine given fun merged same => inherited_unmarked.commentOf (gather fun source member => ?_) same
  simp only [List.mem_cons, List.not_mem_nil, or_false] at member
  rcases member with rfl | rfl | rfl
  · exact nil
  · exact given own
  · exact given user

end Unmarked

def Outcome.statsLine (language : Language) (stats : List Text) : List Text :=
  if stats.isEmpty then []
  else ['_' :: language.say .computedWith [("stats", Text.joined [',', ' '] stats)] ++ ['_']]

theorem Outcome.exists_commentLines_eq (language : Language) (comment : Text) :
    ∃ free, Outcome.commentLines language comment =
      free ++ Outcome.statsLine language (Comment.stats comment) :=
  ⟨_, rfl⟩

namespace Merged

variable {names : List Text} (legible : ∀ name ∈ names, StatMarker.Legible name)
include legible

theorem mem_names_of_withMarkers {merged : Merged} (unmarked : Unmarked (merged.comment.getD [])) :
    ∀ name ∈ Comment.stats ((merged.withMarkers names).comment.getD []), name ∈ names := by
  have plain := (inherited_unmarked.plainText unmarked).stats_eq
  intro name member
  rw [stats_withMarkers (fun name given => (legible name given).readable), unmarked.stats_eq, plain,
    List.append_nil, List.append_nil] at member
  exact List.mem_eraseDups.mp member

/-- The names that are added to the merged comments are read back from it first, each once and in
the order in which they were given, whatever the formula and the user have for markers and texts;
and they are what is listed. -/
theorem withMarkers_names_first (formula : Text) (userComment : Option Text) (language : Language) :
    let merged := (ofFormula formula userComment).withMarkers names
    ∃ others free : List Text,
      Comment.stats (merged.comment.getD []) = names.eraseDups ++ others ∧
      (merged.comment.map (Outcome.commentLines language)).getD [] =
        free ++ Outcome.statsLine language (names.eraseDups ++ others) := by
  intro merged
  have read : Comment.stats (merged.comment.getD []) = _ :=
    stats_withMarkers (fun name given => (legible name given).readable) _
  rw [List.eraseDups_append, List.append_assoc] at read
  cases given : merged.comment with
  | none =>
    rw [given] at read
    refine ⟨_, [], read, ?_⟩
    rw [← read]
    rfl
  | some comment =>
    rw [given] at read
    obtain ⟨free, lines⟩ := Outcome.exists_commentLines_eq language comment
    refine ⟨_, free, read, ?_⟩
    rw [← read]
    exact lines

omit legible in
theorem withMarkers_names_first_underscored :
    let names : List Text :=
      [['_'], ['_', ']', '%', '%'], ['_', '_'], ['_'], ['%', '%', '[', '_', '_']]
    let comment : Text := "a%%[__ __]%%".toList
    let merged :=
      (ofFormula "1d20; 2d6 # b %%[__Luck__]%% c".toList (some comment)).withMarkers names
    (∀ name ∈ names, StatMarker.Legible name) ∧
      Comment.stats (merged.comment.getD []) = names.eraseDups ++ [['L', 'u', 'c', 'k'], [' ']] ∧
      ∃ free, (merged.comment.map (Outcome.commentLines .english)).getD [] =
        free ++ Outcome.statsLine .english (names.eraseDups ++ [['L', 'u', 'c', 'k'], [' ']]) := by
  intro names comment merged
  have legible : ∀ name ∈ names, StatMarker.Legible name := by decide
  have stats : Comment.stats (merged.comment.getD []) =
      names.eraseDups ++ [['L', 'u', 'c', 'k'], [' ']] := by
    decide +kernel
  obtain ⟨others, free, read, lines⟩ := withMarkers_names_first legible _ (some comment) .english
  rw [← read] at lines
  refine ⟨legible, stats, free, ?_⟩
  rw [← stats]
  exact lines

end Merged
end Tabletop
