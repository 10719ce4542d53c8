import Tabletop.Comment.Merge
import Tabletop.Proofs.Extracting.Words
import Tabletop.Proofs.Markers

/-! Comments with their markers in front. A gathered comment is a marker for each stat of its
sources and then their texts, and it is read as it is written: the stats come back in their order,
and the texts are what is left. -/
namespace Tabletop

section Lists

variable {α β : Type} [BEq α] [LawfulBEq α] [BEq β] [LawfulBEq β] {xs ys : List α} {x : α}

theorem eraseDups_concat_of_mem (member : x ∈ xs) : (xs ++ [x]).eraseDups = xs.eraseDups := by
  simp [List.eraseDups_append, List.removeAll, member]

theorem eraseDups_concat_of_not_mem (fresh : x ∉ xs) :
    (xs ++ [x]).eraseDups = xs.eraseDups ++ [x] := by
  simp [List.eraseDups_append, List.removeAll, fresh, List.eraseDups_cons]

theorem nodup_eraseDups (xs : List α) : xs.eraseDups.Nodup := by
  induction xs using List.reverseRecOn with
  | nil => exact List.nodup_nil
  | append_singleton xs x ih =>
    by_cases member : x ∈ xs
    · rwa [eraseDups_concat_of_mem member]
    · rw [eraseDups_concat_of_not_mem member]
      apply List.nodup_append.mpr
      refine ⟨ih, by simp, ?_⟩
      rintro y listed z last rfl
      exact member (List.mem_singleton.mp last ▸ List.mem_eraseDups.mp listed)

theorem eraseDups_of_nodup (nodup : xs.Nodup) : xs.eraseDups = xs := by
  induction xs using List.reverseRecOn with
  | nil => rfl
  | append_singleton xs x ih =>
    obtain ⟨first, _, apart⟩ := List.nodup_append.mp nodup
    have fresh : x ∉ xs := fun member => apart x member x (List.mem_singleton_self x) rfl
    rw [eraseDups_concat_of_not_mem fresh, ih first]

theorem eraseDups_map {f : α → β} (injective : Function.Injective f) (xs : List α) :
    (xs.map f).eraseDups = xs.eraseDups.map f := by
  induction xs using List.reverseRecOn with
  | nil => rfl
  | append_singleton xs x ih =>
    rw [List.map_append, List.map_singleton]
    by_cases member : x ∈ xs
    · rw [eraseDups_concat_of_mem member, eraseDups_concat_of_mem (List.mem_map_of_mem member), ih]
    · have fresh : f x ∉ xs.map f := by simpa [injective.eq_iff] using member
      rw [eraseDups_concat_of_not_mem member, eraseDups_concat_of_not_mem fresh, ih,
        List.map_append, List.map_singleton]

theorem eraseDups_append_of_prefix (starts : xs.eraseDups <+: ys) :
    (xs ++ ys).eraseDups = ys.eraseDups := by
  obtain ⟨more, rfl⟩ := starts
  have listed : xs.eraseDups.removeAll xs = [] := by simp [List.removeAll]
  have same : more.removeAll xs.eraseDups = more.removeAll xs := by simp [List.removeAll]
  have split : (xs.eraseDups ++ more).removeAll xs = more.removeAll xs := by
    rw [List.removeAll, List.filter_append, ← List.removeAll, listed, List.nil_append,
      List.removeAll]
  rw [List.eraseDups_append, List.eraseDups_append, eraseDups_of_nodup (nodup_eraseDups xs), split,
    same]

end Lists

namespace Comment

open StatMarker (mark Readable)

variable {names : List Text} {name text : Text}

def stats (comment : Text) : List Text := (StatMarker.reader.findings comment).map (·.1)

@[simp] theorem stats_nil : stats [] = [] := rfl

theorem readable_of_mem_stats (member : name ∈ stats text) : Readable name := by
  obtain ⟨⟨_, part⟩, found, rfl⟩ := List.mem_map.mp member
  exact (StatMarker.of_mem_findings found).2

theorem markersOf_eq (comment : Text) : markersOf comment = (stats comment).map mark := by
  rw [markersOf, stats, List.map_map]
  apply List.map_congr_left
  rintro ⟨name, part⟩ found
  exact (StatMarker.of_mem_findings found).1

theorem stats_cons {c : Char} (other : c ≠ '%') (text : Text) : stats (c :: text) = stats text := by
  rw [stats, Reader.findings_cons (StatMarker.reader_starts.of_ne other text), stats]

theorem stats_mark_append (readable : Readable name) (rest : Text) :
    stats (mark name ++ rest) = name :: stats rest := by
  have reads := StatMarker.reader_mark readable rest
  simp only [stats, Reader.findings, Reader.scan_of_reads (StatMarker.mark_ne_nil name) reads,
    List.filterMap_cons, List.map_cons]

theorem erased_mark_append (readable : Readable name) (rest : Text) :
    StatMarker.reader.erased (mark name ++ rest) = StatMarker.reader.erased rest :=
  Reader.substituted_of_reads (StatMarker.mark_ne_nil name) (StatMarker.reader_mark readable rest) _

theorem erased_of_stats_eq_nil (none : stats text = []) : StatMarker.reader.erased text = text :=
  Reader.substituted_of_unfound StatMarker.reader_takesPart (List.map_eq_nil_iff.mp none) _

theorem erased_cons {c : Char} (other : c ≠ '%') (text : Text) :
    StatMarker.reader.erased (c :: text) = c :: StatMarker.reader.erased text :=
  Reader.substituted_cons (StatMarker.reader_starts.of_ne other text)

def spaced (text : Text) : Text := if text = [] then [] else ' ' :: text

@[simp] theorem spaced_nil : spaced [] = [] := rfl

theorem spaced_of_ne_nil (some : text ≠ []) : spaced text = ' ' :: text := if_neg some

theorem spaced_injective : Function.Injective spaced := by
  intro first second same
  unfold spaced at same
  split at same <;> split at same <;> simp_all

theorem stats_spaced (text : Text) : stats (spaced text) = stats text := by
  unfold spaced
  split
  · next empty => rw [empty]
  · exact stats_cons (by decide) text

theorem exists_erased_spaced (text : Text) : ∃ blanks, Text.allBlank blanks = true ∧
    StatMarker.reader.erased (spaced text) = blanks ++ StatMarker.reader.erased text := by
  unfold spaced
  split
  · next empty => exact ⟨[], rfl, by rw [empty, List.nil_append]⟩
  · exact ⟨[' '], rfl, erased_cons (by decide) text⟩

/-- A marker for each name, and then a text, with a space between neighbours. -/
def marked : List Text → Text → Text
  | [], free => free
  | name :: names, free => mark name ++ spaced (marked names free)

theorem marked_append (names more : List Text) (free : Text) :
    marked (names ++ more) free = marked names (marked more free) := by
  induction names with
  | nil => rfl
  | cons name names ih => rw [List.cons_append, marked, ih, marked]

theorem marked_injective (names : List Text) : Function.Injective (marked names) := by
  induction names with
  | nil => exact Function.injective_id
  | cons name names ih =>
    intro first second same
    exact ih (spaced_injective (List.append_cancel_left same))

theorem marked_cons_ne_nil (name : Text) (names : List Text) (free : Text) :
    marked (name :: names) free ≠ [] :=
  List.append_ne_nil_of_left_ne_nil (StatMarker.mark_ne_nil name) _

theorem stats_marked (readable : ∀ name ∈ names, Readable name) (free : Text) :
    stats (marked names free) = names ++ stats free := by
  induction names with
  | nil => rfl
  | cons name names ih =>
    obtain ⟨first, others⟩ := List.forall_mem_cons.mp readable
    rw [marked, stats_mark_append first, stats_spaced, ih others, List.cons_append]

theorem exists_erased_marked (readable : ∀ name ∈ names, Readable name) (free : Text) :
    ∃ blanks, Text.allBlank blanks = true ∧
      StatMarker.reader.erased (marked names free) = blanks ++ StatMarker.reader.erased free := by
  induction names with
  | nil => exact ⟨[], rfl, rfl⟩
  | cons name names ih =>
    obtain ⟨first, others⟩ := List.forall_mem_cons.mp readable
    obtain ⟨blanks, blank, rest⟩ := ih others
    obtain ⟨space, spacing, behind⟩ := exists_erased_spaced (marked names free)
    refine ⟨space ++ blanks, Text.allBlank_append_iff.mpr ⟨spacing, blank⟩, ?_⟩
    rw [marked, erased_mark_append first, behind, rest, List.append_assoc]

theorem trim_erased_marked (readable : ∀ name ∈ names, Readable name) (free : Text) :
    Text.trim (StatMarker.reader.erased (marked names free)) =
      Text.trim (StatMarker.reader.erased free) := by
  obtain ⟨blanks, blank, rest⟩ := exists_erased_marked readable free
  rw [rest, Text.trim, Text.trimStart_append blank, Text.trim]

theorem plainText_marked (readable : ∀ name ∈ names, Readable name) (free : Text) :
    plainText (marked names free) = plainText free := by
  simp only [plainText, trim_erased_marked readable]

theorem joined_cons_spaced {parts : List Text} (each : ∀ part ∈ parts, part ≠ []) (first : Text) :
    Text.joined [' '] (first :: parts) = first ++ spaced (Text.joined [' '] parts) := by
  cases parts with
  | nil => simp [Text.joined]
  | cons next others =>
    rw [Text.joined_cons_cons,
      spaced_of_ne_nil (Text.joined_ne_nil (each next List.mem_cons_self) others)]

theorem joined_marks {texts : List Text} (each : ∀ part ∈ texts, part ≠ []) (names : List Text) :
    Text.joined [' '] (names.map mark ++ texts) = marked names (Text.joined [' '] texts) := by
  induction names with
  | nil => rfl
  | cons name names ih =>
    have later : ∀ part ∈ names.map mark ++ texts, part ≠ [] := by
      intro part member
      rcases List.mem_append.mp member with first | second
      · obtain ⟨other, _, rfl⟩ := List.mem_map.mp first
        exact StatMarker.mark_ne_nil other
      · exact each part second
    rw [List.map_cons, List.cons_append, joined_cons_spaced later, ih, marked]

theorem joined_marks_alone (names : List Text) :
    Text.joined [' '] (names.map mark) = marked names [] := by
  have none : ∀ part ∈ ([] : List Text), part ≠ [] := by simp
  have marks := joined_marks none names
  rwa [List.append_nil] at marks

def listed (sources : List Text) : List Text := (sources.flatMap stats).eraseDups

def freeText (sources : List Text) : Text :=
  Text.joined [' '] ((sources.map plainText).filter (!·.isEmpty)).eraseDups

theorem readable_of_mem_listed {sources : List Text} : ∀ name ∈ listed sources, Readable name := by
  intro name member
  obtain ⟨source, _, found⟩ := List.mem_flatMap.mp (List.mem_eraseDups.mp member)
  exact readable_of_mem_stats found

theorem gather_eq (sources : List Text) :
    gather sources = marked (listed sources) (freeText sources) := by
  have markers : sources.flatMap markersOf = (sources.flatMap stats).map mark := by
    rw [List.map_flatMap, funext markersOf_eq]
  have each : ∀ part ∈ ((sources.map plainText).filter (!·.isEmpty)).eraseDups, part ≠ [] := by
    intro part member
    simpa using (List.mem_filter.mp (List.mem_eraseDups.mp member)).2
  simp only [gather, markers, eraseDups_map StatMarker.mark_injective]
  exact joined_marks each (listed sources)

theorem stats_gather (sources : List Text) :
    stats (gather sources) = listed sources ++ stats (freeText sources) := by
  rw [gather_eq, stats_marked readable_of_mem_listed]

section Added

variable (readable : ∀ name ∈ names, Readable name)
include readable

theorem listed_added (comment : Text) :
    listed [Text.joined [' '] (names.map mark), comment] = (names ++ stats comment).eraseDups := by
  simp only [listed, List.flatMap_cons, List.flatMap_nil, List.append_nil, joined_marks_alone,
    stats_marked readable, stats_nil]

theorem freeText_added (comment : Text) :
    freeText [Text.joined [' '] (names.map mark), comment] = plainText comment := by
  have none : plainText (Text.joined [' '] (names.map mark)) = [] := by
    rw [joined_marks_alone, plainText_marked readable]
    rfl
  rw [freeText, List.map_cons, List.map_singleton, none]
  cases plainText comment <;> simp [Text.joined, List.eraseDups_cons]

end Added
end Comment

namespace Merged

def commentWith (chained : Bool) (text : Text) : Option Text :=
  if text = [] then none else some (if chained then '#' :: ' ' :: text else text)

theorem commentOf_eq (chained : Bool) (sources : List Text) :
    commentOf chained sources = commentWith chained (Comment.gather sources) := by
  simp only [commentOf, commentWith, List.isEmpty_iff]

theorem commentWith_injective (chained : Bool) : Function.Injective (commentWith chained) := by
  intro first second same
  unfold commentWith at same
  cases chained <;> split at same <;> split at same <;> simp_all

theorem stats_commentWith (chained : Bool) (text : Text) :
    Comment.stats ((commentWith chained text).getD []) = Comment.stats text := by
  unfold commentWith
  split
  · next empty => rw [empty, Option.getD_none]
  · cases chained with
    | false => rfl
    | true => exact (Comment.stats_cons (by decide) _).trans (Comment.stats_cons (by decide) _)

variable {names : List Text} (readable : ∀ name ∈ names, StatMarker.Readable name) (merged : Merged)
include readable

theorem comment_withMarkers :
    (merged.withMarkers names).comment = commentWith merged.chained
      (Comment.marked (names ++ Comment.stats (merged.comment.getD [])).eraseDups
        (Comment.plainText (merged.comment.getD []))) := by
  simp only [withMarkers, commentOf_eq, Comment.gather_eq, Comment.listed_added readable,
    Comment.freeText_added readable]

theorem stats_withMarkers :
    Comment.stats ((merged.withMarkers names).comment.getD []) =
      (names ++ Comment.stats (merged.comment.getD [])).eraseDups ++
        Comment.stats (Comment.plainText (merged.comment.getD [])) := by
  rw [withMarkers, commentOf_eq, stats_commentWith, Comment.stats_gather,
    Comment.listed_added readable, Comment.freeText_added readable]

end Merged
end Tabletop
