import Tabletop.Proofs.Merging.Marked

/-! Comments to which stats are added again. Every time the comment is taken apart into markers and
a text and put together again, and it stays as it is exactly if its text loses nothing on the way:
its markers stand in front of it, each for a new name, and it starts with no number sign that is
taken for that of a comment. -/
namespace Tabletop

theorem Text.length_withoutLeading_le (mark : Char) (text : Text) :
    (text.withoutLeading mark).length ≤ text.length :=
  (List.dropWhile_suffix (· == mark)).length_le

theorem Text.length_trimEnd_le (text : Text) : text.trimEnd.length ≤ text.length :=
  List.IsPrefix.length_le (List.rdropWhile_prefix isBlank text)

theorem Text.withoutLeading_signed (text : Text) :
    (Text.trim ('#' :: ' ' :: text)).withoutLeading '#' = Text.trimEnd (' ' :: text) := by
  rw [Text.trim_cons_visible (by decide), Text.withoutLeading,
    List.dropWhile_cons_of_pos (by decide)]
  obtain ⟨after, blank, whole⟩ := Text.exists_append_blank (' ' :: text)
  cases same : Text.trimEnd (' ' :: text) with
  | nil => rfl
  | cons c rest =>
    rw [same] at whole
    obtain ⟨rfl, _⟩ := List.cons.inj whole
    rfl

open StatMarker (Readable Legible)

namespace Comment

variable {chained : Bool} {names : List Text} {free rest : Text}

theorem plainText_eq (comment : Text) : plainText comment =
    Text.joined [' ']
      (Text.words ((Text.trim (StatMarker.reader.erased comment)).withoutLeading '#')) :=
  Text.collapsed_trim _

theorem tidy_plainText (comment : Text) : (plainText comment).Tidy := by
  rw [plainText_eq]
  exact Text.tidy_joined_words _

theorem tidy_freeText (sources : List Text) : (freeText sources).Tidy := by
  apply Text.tidy_joined
  intro part member
  obtain ⟨listed, some⟩ := List.mem_filter.mp (List.mem_eraseDups.mp member)
  obtain ⟨source, _, rfl⟩ := List.mem_map.mp listed
  exact ⟨tidy_plainText source, by simpa using some⟩

theorem eq_nil_of_marked (empty : marked names rest = []) : rest = [] := by
  cases names with
  | nil => exact empty
  | cons name names => exact absurd empty (marked_cons_ne_nil name names rest)

theorem tidy_of_marked (tidy : (marked names rest).Tidy) : rest.Tidy := by
  induction names with
  | nil => exact tidy
  | cons name names ih =>
    by_cases empty : marked names rest = []
    · rw [eq_nil_of_marked empty]
      exact Text.tidy_nil
    · rw [marked, spaced_of_ne_nil empty] at tidy
      exact ih tidy.behind

def kept (chained : Bool) (free : Text) : Text :=
  if chained then Text.joined [' '] (Text.words (StatMarker.reader.erased free)) else plainText free

theorem plainText_commentWith (chained : Bool) (text : Text) :
    plainText ((Merged.commentWith chained text).getD []) = kept chained text := by
  unfold Merged.commentWith kept
  split
  · next empty =>
    rw [empty]
    cases chained <;> rfl
  · cases chained with
    | false => rfl
    | true =>
      rw [if_pos rfl, if_pos rfl, Option.getD_some, plainText_eq, erased_cons (by decide),
        erased_cons (by decide), Text.withoutLeading_signed, Text.words_trimEnd,
        Text.words_cons_blank (by decide)]

theorem kept_marked (readable : ∀ name ∈ names, Readable name) (free : Text) :
    kept chained (marked names free) = kept chained free := by
  unfold kept
  rw [plainText_marked readable, ← Text.words_trim, trim_erased_marked readable, Text.words_trim]

theorem length_plainText_le (comment : Text) :
    (plainText comment).length ≤
      ((Text.trim (StatMarker.reader.erased comment)).withoutLeading '#').length := by
  rw [plainText_eq]
  exact Text.length_joined_words_le _

theorem length_kept_le (chained : Bool) (free : Text) :
    (kept chained free).length ≤ (StatMarker.reader.erased free).length := by
  cases chained with
  | true => exact Text.length_joined_words_le _
  | false =>
    have bare := Text.length_withoutLeading_le '#' (Text.trim (StatMarker.reader.erased free))
    exact ((length_plainText_le free).trans bare).trans (Text.trim_part _).length_le

theorem kept_of_tidy (tidy : free.Tidy) (none : stats free = [])
    (bare : chained = false → free.head? ≠ some '#') : kept chained free = free := by
  unfold kept
  rw [plainText_eq, erased_of_stats_eq_nil none, tidy.trim]
  cases chained with
  | true => exact tidy
  | false =>
    have unsigned : free.withoutLeading '#' = free := by
      cases free with
      | nil => rfl
      | cons c text =>
        have other : c ≠ '#' := fun same => bare rfl (congrArg some same)
        exact List.dropWhile_cons_of_neg (by simpa using other)
    rw [if_neg (by decide), unsigned]
    exact tidy

theorem of_kept (same : kept chained free = free) :
    stats free = [] ∧ (chained = false → free.head? ≠ some '#') := by
  have short := length_kept_le chained free
  rw [same] at short
  have none : stats free = [] := by
    rw [stats, StatMarker.reader_takesPart.findings_of_length_erased short, List.map_nil]
  refine ⟨none, ?_⟩
  rintro rfl first
  obtain ⟨text, rfl⟩ := List.head?_eq_some_iff.mp first
  have bound := length_plainText_le ('#' :: text)
  have plain : plainText ('#' :: text) = '#' :: text := same
  rw [plain, erased_of_stats_eq_nil none, Text.trim_cons_visible (by decide), Text.withoutLeading,
    List.dropWhile_cons_of_pos (by decide), List.length_cons] at bound
  have bare := Text.length_withoutLeading_le '#' (Text.trimEnd text)
  have before := Text.length_trimEnd_le text
  exact absurd (bound.trans (bare.trans before)) (Nat.not_succ_le_self _)

/-- A text that stays as it is behind these names: it starts with its markers, which name nothing
twice, and what follows has no number sign in front that would be left out. -/
structure Settles (chained : Bool) (names : List Text) (free : Text) : Prop where
  split : ∃ rest, free = marked (stats free) rest ∧ (chained = false → rest.head? ≠ some '#')
  fresh : (names ++ stats free).Nodup

theorem marked_kept_eq_iff (nodup : names.Nodup) (tidy : free.Tidy) :
    marked ((stats free).removeAll names).eraseDups (kept chained free) = free ↔
      Settles chained names free := by
  have appended :
      (names ++ stats free).eraseDups = names ++ ((stats free).removeAll names).eraseDups := by
    rw [List.eraseDups_append, eraseDups_of_nodup nodup]
  constructor
  · intro same
    have readable : ∀ name ∈ ((stats free).removeAll names).eraseDups, Readable name := by
      intro name member
      exact readable_of_mem_stats (List.mem_filter.mp (List.mem_eraseDups.mp member)).1
    have again : kept chained (kept chained free) = kept chained free := by
      rw [← kept_marked readable (kept chained free), same]
    obtain ⟨none, bare⟩ := of_kept again
    have found : stats free = ((stats free).removeAll names).eraseDups := by
      have read := stats_marked readable (kept chained free)
      rwa [same, none, List.append_nil] at read
    constructor
    · refine ⟨kept chained free, ?_, bare⟩
      rw [found]
      exact same.symm
    · rw [found, ← appended]
      exact nodup_eraseDups _
  · rintro ⟨⟨rest, split, bare⟩, fresh⟩
    have readable : ∀ name ∈ stats free, Readable name := fun name => readable_of_mem_stats
    have none : stats rest = [] := by
      have read := congrArg stats split
      rwa [stats_marked readable, List.self_eq_append_right] at read
    have found : ((stats free).removeAll names).eraseDups = stats free := by
      rw [eraseDups_of_nodup fresh] at appended
      exact (List.append_cancel_left appended).symm
    have settled : rest.Tidy := tidy_of_marked (split ▸ tidy)
    have stays : kept chained free = rest := by
      rw [split, kept_marked readable, kept_of_tidy settled none bare]
    rw [found, stays]
    exact split.symm

end Comment

namespace Merged

def sources (formula : Text) (userComment : Option Text) : List Text :=
  let (body, comment) := splitComment (fragments formula)
  [Text.joined [' '] (Comment.markersOf body), comment.getD [], userComment.getD []]

def sourcesWith (names : List Text) (merged : Merged) : List Text :=
  [Text.joined [' '] (names.map StatMarker.mark), merged.comment.getD []]

theorem comment_ofFormula (formula : Text) (userComment : Option Text) :
    (ofFormula formula userComment).comment =
      commentOf (ofFormula formula userComment).chained (sources formula userComment) := by
  simp only [ofFormula, sources]

theorem withMarkers_eq_self_iff_comment (names : List Text) (merged : Merged) :
    merged.withMarkers names = merged ↔ (merged.withMarkers names).comment = merged.comment := by
  cases merged
  simp [withMarkers]

theorem withMarkers_eq_self_iff {names sources : List Text} {merged : Merged}
    (readable : ∀ name ∈ names, Readable name) (starts : names.eraseDups <+: Comment.listed sources)
    (gathered : merged.comment = commentOf merged.chained sources) :
    merged.withMarkers names = merged ↔
      Comment.Settles merged.chained (Comment.listed sources) (Comment.freeText sources) := by
  have known : ∀ name ∈ Comment.listed sources, Readable name := Comment.readable_of_mem_listed
  have nodup : (Comment.listed sources).Nodup := nodup_eraseDups _
  have first := starts.trans (List.prefix_append _ (Comment.stats (Comment.freeText sources)))
  rw [commentOf_eq, Comment.gather_eq] at gathered
  rw [withMarkers_eq_self_iff_comment, comment_withMarkers readable, gathered,
    (commentWith_injective _).eq_iff, stats_commentWith, Comment.stats_marked known,
    Comment.plainText_commentWith, Comment.kept_marked known, eraseDups_append_of_prefix first,
    List.eraseDups_append, eraseDups_of_nodup nodup, Comment.marked_append,
    (Comment.marked_injective _).eq_iff,
    Comment.marked_kept_eq_iff nodup (Comment.tidy_freeText sources)]

/-- Adding no names to the merged comments of a formula changes nothing, and adding names twice
gives what adding them once gives, exactly if the text that is merged stays as it is. -/
theorem withMarkers_idempotent_iff {names : List Text} (legible : ∀ name ∈ names, Legible name)
    (formula : Text) (userComment : Option Text) :
    let merged := ofFormula formula userComment
    let given := sources formula userComment
    let added := merged.sourcesWith names
    (merged.withMarkers [] = merged ↔
      Comment.Settles merged.chained (Comment.listed given) (Comment.freeText given)) ∧
    ((merged.withMarkers names).withMarkers names = merged.withMarkers names ↔
      Comment.Settles merged.chained (Comment.listed added) (Comment.freeText added)) := by
  intro merged given added
  have readable : ∀ name ∈ names, Readable name := fun name member => (legible name member).readable
  constructor
  · have first : ([] : List Text).eraseDups <+: Comment.listed given := List.nil_prefix
    exact withMarkers_eq_self_iff (by simp) first (comment_ofFormula formula userComment)
  · have first : names.eraseDups <+: Comment.listed added := by
      rw [show Comment.listed added = _ from Comment.listed_added readable _, List.eraseDups_append]
      exact List.prefix_append _ _
    have gathered : (merged.withMarkers names).comment =
        commentOf (merged.withMarkers names).chained added := rfl
    exact withMarkers_eq_self_iff readable first gathered

def luck : Text := ['L', 'u', 'c', 'k']

theorem withMarkers_idempotent_closed_up :
    let names : List Text := [luck, ['a'], luck]
    let merged := ofFormula "1d20 # %%[_%%[__a__]%%_b__]%% x".toList (some "y #z".toList)
    (∀ name ∈ names, Legible name) ∧ merged.withMarkers [] = merged ∧
      (merged.withMarkers names).withMarkers names = merged.withMarkers names := by
  intro names merged
  have legible : ∀ name ∈ names, Legible name := by decide
  obtain ⟨none, twice⟩ :=
    withMarkers_idempotent_iff legible "1d20 # %%[_%%[__a__]%%_b__]%% x".toList
    (some "y #z".toList)
  refine ⟨legible, none.mpr ⟨⟨"x y #z".toList, ?_, ?_⟩, ?_⟩,
    twice.mpr ⟨⟨"x y #z".toList, ?_, ?_⟩, ?_⟩⟩
  all_goals decide +kernel

/-- Of three number signs before a text each time one more is left out. -/
theorem withMarkers_not_idempotent :
    let merged := ofFormula "1d20".toList (some "# # #1".toList)
    merged.withMarkers [] ≠ merged ∧
      (merged.withMarkers [luck]).withMarkers [luck] ≠ merged.withMarkers [luck] := by
  decide +kernel

end Merged
end Tabletop
