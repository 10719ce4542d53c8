import Tabletop.Text.Scan

/-! What a search finds when more is written behind a text. A cut stays where it is, and so does
what a scan finds, as long as its reader never takes a part of what is behind. -/
namespace Tabletop

namespace Text

variable {mark : Char} {text : Text}

theorem cutAt?_append {before after : Text} (found : cutAt? mark text = some (before, after))
    (more : Text) : cutAt? mark (text ++ more) = some (before, after ++ more) := by
  induction text generalizing before with
  | nil => cases found
  | cons c cs ih =>
    by_cases same : c = mark
    · simp only [cutAt?, same, if_true, Option.some.injEq, Prod.mk.injEq] at found
      obtain ⟨rfl, rfl⟩ := found
      simp [cutAt?, same]
    · simp only [cutAt?, same, if_false, Option.map_eq_some_iff, Prod.mk.injEq,
        Prod.exists] at found
      obtain ⟨inner, _, cut, rfl, rfl⟩ := found
      simp [cutAt?, same, ih cut]

theorem cutAt?_append_of_not_mem (fresh : mark ∉ text) (more : Text) :
    cutAt? mark (text ++ more) = (cutAt? mark more).map fun (before, after) =>
      (text ++ before, after) := by
  induction text with
  | nil => simp
  | cons c cs ih =>
    have other : c ≠ mark := fun same => fresh (same ▸ List.mem_cons_self)
    have others := ih fun member => fresh (List.mem_cons_of_mem c member)
    simp only [List.cons_append, cutAt?, other, if_false, others, Option.map_map]
    rfl

end Text

namespace Text

variable {m : Char}

theorem suffix_of_suffix_append {first rest start : Text} (fresh : m ∉ first)
    (suffix : m :: start <:+ first ++ rest) : m :: start <:+ rest := by
  obtain ⟨before, same⟩ := suffix
  rcases List.append_eq_append_iff.mp same with ⟨others, split, behind⟩ | ⟨others, _, behind⟩
  · cases others with
    | nil => exact ⟨[], behind⟩
    | cons c others =>
      obtain ⟨rfl, _⟩ := List.cons.inj behind
      exact absurd (split ▸ List.mem_append_right before List.mem_cons_self) fresh
  · exact ⟨others, behind.symm⟩

theorem suffix_append_cases {first rest start : Text} (suffix : m :: start <:+ first ++ rest) :
    m :: start <:+ rest ∨ ∃ inner, m :: inner <:+ first ∧ start = inner ++ rest := by
  induction first with
  | nil => exact .inl suffix
  | cons c first ih =>
    rcases List.suffix_cons_iff.mp suffix with same | later
    · obtain ⟨rfl, rfl⟩ := List.cons.inj same
      exact .inr ⟨first, List.suffix_refl _, rfl⟩
    · refine (ih later).imp_right ?_
      rintro ⟨inner, place, rfl⟩
      exact ⟨inner, place.trans (List.suffix_cons c first), rfl⟩

theorem eq_of_cons_suffix_cons {part start : Text} (fresh : m ∉ part)
    (suffix : m :: start <:+ m :: part) : start = part := by
  rcases List.suffix_cons_iff.mp suffix with same | later
  · exact (List.cons.inj same).2
  · exact absurd (later.subset List.mem_cons_self) fresh

theorem suffix_of_mark {word rest value behind : Text} (fresh : m ∉ word) (unmarked : m ∉ value)
    (suffix : word ++ m :: rest <:+ value ++ m :: behind) :
    word <:+ value ∧ rest = behind ∨ word ++ m :: rest <:+ behind := by
  obtain ⟨front, same⟩ := suffix
  rw [← List.append_assoc] at same
  rcases List.append_eq_append_iff.mp same with ⟨mid, rfl, later⟩ | ⟨mid, whole, later⟩
  · cases mid with
    | nil => exact .inl ⟨⟨front, by simp⟩, (List.cons.inj later).2⟩
    | cons c mid =>
      obtain ⟨rfl, _⟩ := List.cons.inj later
      exact absurd (List.mem_append_right _ List.mem_cons_self) unmarked
  · cases mid with
    | nil => exact .inl ⟨⟨front, by simpa using whole⟩, (List.cons.inj later).2.symm⟩
    | cons c mid =>
      obtain ⟨rfl, rfl⟩ := List.cons.inj later
      have ends : word <:+ value ++ m :: mid := ⟨front, whole⟩
      rcases List.suffix_or_suffix_of_suffix ends (List.suffix_append value (m :: mid)) with
        short | long
      · rcases List.suffix_cons_iff.mp short with rfl | ⟨more, rfl⟩
        · exact absurd List.mem_cons_self fresh
        · exact .inr ⟨more, by simp⟩
      · exact absurd (long.subset List.mem_cons_self) fresh

theorem infix_of_mark {word before after : Text} (fresh : m ∉ word)
    (inside : word <:+: before ++ m :: after) : word <:+: before ∨ word <:+: after := by
  rcases List.infix_append_iff.mp inside with first | later | ⟨start, rest, rfl, ends, opens⟩
  · exact .inl first
  · rcases List.infix_cons_iff.mp later with opens | later
    · cases word with
      | nil => exact .inl List.nil_infix
      | cons c word =>
        obtain ⟨rfl, _⟩ := List.cons_prefix_cons.mp opens
        exact absurd List.mem_cons_self fresh
    · exact .inr later
  · cases rest with
    | nil => exact .inl (by simpa using ends.isInfix)
    | cons c rest =>
      obtain ⟨rfl, _⟩ := List.cons_prefix_cons.mp opens
      exact absurd (List.mem_append_right _ List.mem_cons_self) fresh

theorem infix_of_start {word before after : Text} (fresh : m ∉ before)
    (inside : m :: word <:+: before ++ after) : m :: word <:+: after := by
  obtain ⟨start, opens, suffix⟩ := List.infix_iff_prefix_suffix.mp inside
  obtain ⟨rest, rfl⟩ := opens
  exact (List.prefix_append _ rest).isInfix.trans (suffix_of_suffix_append fresh suffix).isInfix

theorem infix_of_end {word before after : Text} (fresh : m ∉ after)
    (inside : word ++ [m] <:+: before ++ after) : word ++ [m] <:+: before := by
  rw [← List.reverse_infix] at inside ⊢
  rw [List.reverse_append, List.reverse_append] at inside
  rw [List.reverse_append]
  exact infix_of_start (by simpa using fresh) inside

end Text

namespace Reader

def Spares (reader : Reader α) (tail : Text) : Prop :=
  ∀ text, reader (text ++ tail) = (reader text).map fun (value, rest) => (value, rest ++ tail)

theorem spares_of_mem {reader : Reader α} {m : Char} {tail : Text}
    (needs : ∀ start reading, reader start = some reading → m ∈ start) (fresh : m ∉ tail)
    (inside : ∀ text, m ∈ text → reader (text ++ tail) = (reader text).map fun (value, rest) =>
      (value, rest ++ tail)) : Spares reader tail := by
  intro text
  by_cases member : m ∈ text
  · exact inside text member
  · have short : reader text = none :=
      Option.eq_none_iff_forall_ne_some.mpr fun _ reads => member (needs _ _ reads)
    have long : reader (text ++ tail) = none :=
      Option.eq_none_iff_forall_ne_some.mpr fun _ reads => by
        have held := needs _ _ reads
        simp [member, fresh] at held
    rw [short, long]
    rfl

theorem taken_append_right (text rest tail : Text) :
    taken (text ++ tail) (rest ++ tail) = taken text rest := by
  have short : text.length - rest.length ≤ text.length := Nat.sub_le _ _
  unfold taken
  rw [List.length_append, List.length_append, Nat.add_sub_add_right,
    List.take_append_of_le_length short]

variable {reader : Reader α} {tail : Text}

theorem first?_append (spares : Spares reader tail) (text : Text) :
    first? reader (text ++ tail) = match first? reader text with
      | some found => some { found with after := found.after ++ tail }
      | none => (first? reader tail).map fun found =>
          { found with before := text ++ found.before } := by
  induction text with
  | nil => simp [first?]
  | cons c cs ih =>
    have here := spares (c :: cs)
    rw [List.cons_append] at here
    cases found : reader (c :: cs) with
    | some reading =>
      rw [found] at here
      simp only [List.cons_append, first?, here, Option.map_some, found]
      rw [← List.cons_append, taken_append_right]
    | none =>
      rw [found] at here
      simp only [List.cons_append, first?, here, Option.map_none, found, ih]
      cases first? reader cs with
      | some found => rfl
      | none => cases first? reader tail <;> rfl

theorem first?_eq_none {text : Text}
    (never : ∀ before c after, text = before ++ c :: after → reader (c :: after) = none) :
    first? reader text = none := by
  induction text with
  | nil => rfl
  | cons c cs ih =>
    have others := ih fun before d after split => never (c :: before) d after (by rw [split]; rfl)
    simp [first?, never [] c cs rfl, others]

theorem never_of_first?_eq_none {text before after : Text} {c : Char}
    (unfound : first? reader text = none) (split : text = before ++ c :: after) :
    reader (c :: after) = none := by
  induction text generalizing before with
  | nil => simp at split
  | cons d ds ih =>
    cases reads : reader (d :: ds) with
    | some reading => simp [first?, reads] at unfound
    | none =>
      simp only [first?, reads, Option.map_eq_none_iff] at unfound
      cases before with
      | nil =>
        obtain ⟨rfl, rfl⟩ := List.cons.inj split
        exact reads
      | cons e before => exact ih unfound (List.cons.inj split).2

theorem exists_of_first? {text : Text} {found : Occurrence α}
    (first : first? reader text = some found) :
    ∃ start, text = found.before ++ start ∧ reader start = some (found.value, found.after) := by
  induction text generalizing found with
  | nil => cases first
  | cons c cs ih =>
    cases reads : reader (c :: cs) with
    | some reading =>
      simp only [first?, reads, Option.some.injEq] at first
      subst first
      exact ⟨c :: cs, rfl, reads⟩
    | none =>
      simp only [first?, reads, Option.map_eq_some_iff] at first
      obtain ⟨inner, later, rfl⟩ := first
      obtain ⟨start, split, reads⟩ := ih later
      exact ⟨start, by rw [split]; rfl, reads⟩

theorem never_before_first? {text start : Text} {found : Occurrence α}
    (first : first? reader text = some found)
    (split : text = found.before ++ start) {earlier later : Text} {c : Char}
    (before : found.before = earlier ++ c :: later) : reader (c :: (later ++ start)) = none := by
  induction text generalizing found earlier with
  | nil => cases first
  | cons d ds ih =>
    cases reads : reader (d :: ds) with
    | some reading =>
      simp only [first?, reads, Option.some.injEq] at first
      subst first
      simp at before
    | none =>
      simp only [first?, reads, Option.map_eq_some_iff] at first
      obtain ⟨inner, first, rfl⟩ := first
      have rest : ds = inner.before ++ start := (List.cons.inj split).2
      cases earlier with
      | nil =>
        obtain ⟨rfl, rfl⟩ := List.cons.inj before
        exact rest ▸ reads
      | cons e earlier => exact ih first rest (List.cons.inj before).2

theorem first?_append_of_reads {before rest : Text} {c : Char} {cs : Text} {value : α}
    (reads : reader (c :: cs) = some (value, rest))
    (never : ∀ earlier d later, before = earlier ++ d :: later →
      reader (d :: (later ++ c :: cs)) = none) :
    first? reader (before ++ c :: cs) = some ⟨before, value, taken (c :: cs) rest, rest⟩ := by
  induction before with
  | nil => simp [first?, reads]
  | cons d before ih =>
    have here := never [] d before rfl
    have others := ih fun earlier e later split => never (d :: earlier) e later (by rw [split]; rfl)
    simp only [List.cons_append, first?, here, others, Option.map_some]

theorem scanFrom_append {text : Text}
    (spares : ∀ start, start ≠ [] → start <:+ text →
      reader (start ++ tail) = (reader start).map fun (value, rest) => (value, rest ++ tail))
    {covered : Nat} (inside : covered ≤ text.length) :
    scanFrom reader covered (text ++ tail) = scanFrom reader covered text ++ scan reader tail := by
  induction text generalizing covered with
  | nil =>
    obtain rfl := Nat.le_zero.mp inside
    rfl
  | cons c cs ih =>
    have later :=
      @ih fun start nonempty suffix => spares start nonempty (suffix.trans (List.suffix_cons c cs))
    cases covered with
    | succ n => exact later (Nat.le_of_succ_le_succ inside)
    | zero =>
      have here := spares (c :: cs) (List.cons_ne_nil c cs) (List.suffix_refl _)
      rw [List.cons_append] at here
      cases found : reader (c :: cs) with
      | some reading =>
        rw [found] at here
        have passed :
            (cs ++ tail).length - (reading.2 ++ tail).length = cs.length - reading.2.length := by
          rw [List.length_append, List.length_append, Nat.add_sub_add_right]
        simp only [List.cons_append, scanFrom, here, Option.map_some, found, passed]
        rw [← List.cons_append, taken_append_right, later (Nat.sub_le _ _)]
      | none =>
        rw [found] at here
        simp only [List.cons_append, scanFrom, here, Option.map_none, found]
        rw [later (Nat.zero_le _)]

theorem substituted_append (spares : Spares reader tail) (exchange : α → Text → Text)
    (text : Text) :
    substituted reader exchange (text ++ tail) =
      substituted reader exchange text ++ substituted reader exchange tail := by
  simp only [substituted, scan, scanFrom_append (fun start _ _ => spares start) (Nat.zero_le _),
    List.flatMap_append]

theorem scanFrom_eq_scan (covered : Nat) (text : Text) :
    scanFrom reader covered text = scan reader (text.drop covered) := by
  induction text generalizing covered with
  | nil => simp [scan, scanFrom]
  | cons c cs ih =>
    cases covered with
    | zero => rfl
    | succ n => exact ih n

theorem scan_of_none {c : Char} {cs : Text} (other : reader (c :: cs) = none) :
    scan reader (c :: cs) = .plain c :: scan reader cs := by
  simp [scan, scanFrom, other]

theorem scan_of_reads {part rest : Text} {value : α} (nonempty : part ≠ [])
    (reads : reader (part ++ rest) = some (value, rest)) :
    scan reader (part ++ rest) = .hit value part :: scan reader rest := by
  have whole : taken (part ++ rest) rest = part := taken_append rfl
  cases part with
  | nil => contradiction
  | cons c cs =>
    rw [List.cons_append] at reads whole ⊢
    have passed : (cs ++ rest).drop ((cs ++ rest).length - rest.length) = rest := by simp
    simp only [scan, scanFrom, reads, whole]
    rw [scanFrom_eq_scan, passed, scan]

/-- A scan goes on behind a character that starts no reading, or behind what is read. -/
@[elab_as_elim] theorem TakesPart.scan_induction (takes : TakesPart reader) {motive : Text → Prop}
    (nil : motive [])
    (plain : ∀ c text, reader (c :: text) = none → motive text → motive (c :: text))
    (hit : ∀ value part rest, part ≠ [] → reader (part ++ rest) = some (value, rest) → motive rest →
      motive (part ++ rest)) (text : Text) : motive text := by
  induction length : text.length using Nat.strongRecOn generalizing text with
  | ind n ih =>
    subst length
    cases text with
    | nil => exact nil
    | cons c text =>
      cases reads : reader (c :: text) with
      | none => exact plain c text reads (ih text.length (by simp) text rfl)
      | some reading =>
        obtain ⟨part, nonempty, split⟩ := takes _ reading.1 reading.2 reads
        have short := List.length_pos_iff.mpr nonempty
        rw [split] at reads ⊢
        exact hit _ part reading.2 nonempty reads
          (ih _ (by rw [split, List.length_append]; omega) _ rfl)

def StartsWith (reader : Reader α) (m : Char) : Prop :=
  ∀ text reading, reader text = some reading → text.head? = some m

/-- What the reader takes starts with a certain character, which stands nowhere else in it. -/
def OpensWith (reader : Reader α) (m : Char) : Prop :=
  ∀ text value rest, reader text = some (value, rest) →
    ∃ inner, text = m :: (inner ++ rest) ∧ m ∉ inner

variable {m : Char}

theorem StartsWith.of_ne (starts : StartsWith reader m) {c : Char} (other : c ≠ m) (cs : Text) :
    reader (c :: cs) = none := by
  refine Option.eq_none_iff_forall_ne_some.mpr fun reading reads => ?_
  exact other (Option.some.inj (starts _ reading reads))

theorem StartsWith.never (starts : StartsWith reader m) {text : Text} (fresh : m ∉ text) :
    ∀ c ∈ text, ∀ cs, reader (c :: cs) = none := by
  intro c member cs
  apply starts.of_ne
  rintro rfl
  exact fresh member

theorem StartsWith.mem (starts : StartsWith reader m) (start : Text) (reading : α × Text)
    (reads : reader start = some reading) : m ∈ start :=
  List.mem_of_mem_head? (starts start reading reads)

theorem OpensWith.startsWith (opens : OpensWith reader m) : StartsWith reader m := by
  rintro text ⟨value, rest⟩ reads
  obtain ⟨inner, rfl, _⟩ := opens _ _ _ reads
  rfl

theorem OpensWith.of_ne (opens : OpensWith reader m) {c : Char} (other : c ≠ m) (cs : Text) :
    reader (c :: cs) = none :=
  opens.startsWith.of_ne other cs

theorem OpensWith.takesPart (opens : OpensWith reader m) : TakesPart reader := by
  intro text value rest reads
  obtain ⟨inner, same, _⟩ := opens _ _ _ reads
  exact ⟨m :: inner, List.cons_ne_nil m inner, same⟩

theorem scan_append_of_none {text : Text} (never : ∀ c ∈ text, ∀ cs, reader (c :: cs) = none)
    (rest : Text) : scan reader (text ++ rest) = text.map .plain ++ scan reader rest := by
  induction text with
  | nil => rfl
  | cons c cs ih =>
    have others := ih fun d member => never d (List.mem_cons_of_mem c member)
    rw [List.cons_append, scan_of_none (never c List.mem_cons_self _), others, List.map_cons,
      List.cons_append]

theorem OpensWith.scan_append (opens : OpensWith reader m) {text : Text} (fresh : m ∉ text)
    (rest : Text) : scan reader (text ++ rest) = text.map .plain ++ scan reader rest :=
  scan_append_of_none (opens.startsWith.never fresh) rest

theorem OpensWith.mem_scan (opens : OpensWith reader m) {start rest : Text} {value : α}
    (reads : reader start = some (value, rest)) {text : Text} (suffix : start <:+ text) :
    ∃ part, .hit value part ∈ scan reader text := by
  obtain ⟨inner, same, _⟩ := opens _ _ _ reads
  induction text using opens.takesPart.scan_induction with
  | nil =>
    rw [List.suffix_nil.mp suffix] at same
    cases same
  | plain c cs unread ih =>
    rcases List.suffix_cons_iff.mp suffix with rfl | later
    · rw [unread] at reads
      cases reads
    · obtain ⟨part, member⟩ := ih later
      rw [scan_of_none unread]
      exact ⟨part, List.mem_cons_of_mem _ member⟩
  | hit other part after nonempty found ih =>
    rw [scan_of_reads nonempty found]
    obtain ⟨first, split, fresh⟩ := opens _ _ _ found
    rw [split] at suffix found
    rcases List.suffix_cons_iff.mp suffix with rfl | later
    · rw [found] at reads
      cases reads
      exact ⟨part, List.mem_cons_self⟩
    · have behind : start <:+ after := by
        rw [same] at later ⊢
        exact Text.suffix_of_suffix_append fresh later
      obtain ⟨part, member⟩ := ih behind
      exact ⟨part, List.mem_cons_of_mem _ member⟩

theorem not_mem_taken {m : Char} {text : Text} (fresh : m ∉ text) (rest : Text) :
    m ∉ taken text rest :=
  fun member => fresh (List.mem_of_mem_take member)

def Within (reader : Reader α) (text : Text) : Stretch α → Prop
  | .plain c => c ∈ text
  | .hit value part => ∃ start rest, start <:+ text ∧ reader start = some (value, rest) ∧
      part = taken start rest

theorem Within.cons {stretch : Stretch α} {text : Text} (within : Within reader text stretch)
    (c : Char) : Within reader (c :: text) stretch := by
  cases stretch with
  | plain d => exact List.mem_cons_of_mem c within
  | hit value part =>
    obtain ⟨start, rest, suffix, reads⟩ := within
    exact ⟨start, rest, suffix.trans (List.suffix_cons c text), reads⟩

theorem within_of_mem_scanFrom {stretch : Stretch α} {text : Text} {covered : Nat}
    (member : stretch ∈ scanFrom reader covered text) : Within reader text stretch := by
  induction text generalizing covered with
  | nil => cases member
  | cons c cs ih =>
    cases covered with
    | succ n => exact (ih (show stretch ∈ scanFrom reader n cs from member)).cons c
    | zero =>
      cases reads : reader (c :: cs) with
      | none =>
        simp only [scanFrom, reads] at member
        rcases List.mem_cons.mp member with rfl | member
        · exact List.mem_cons_self
        · exact (ih member).cons c
      | some reading =>
        simp only [scanFrom, reads] at member
        rcases List.mem_cons.mp member with rfl | member
        · exact ⟨c :: cs, reading.2, List.suffix_refl _, reads, rfl⟩
        · exact (ih member).cons c

theorem not_mem_substituted {m : Char} {exchange : α → Text → Text} {text : Text} (fresh : m ∉ text)
    (closed : ∀ start value rest, m ∉ start → reader start = some (value, rest) →
      m ∉ exchange value (taken start rest)) : m ∉ substituted reader exchange text := by
  intro member
  obtain ⟨stretch, listed, member⟩ := List.mem_flatMap.mp member
  have within := within_of_mem_scanFrom listed
  cases stretch with
  | plain c =>
    obtain rfl := List.mem_singleton.mp member
    exact fresh within
  | hit value part =>
    obtain ⟨start, rest, suffix, reads, rfl⟩ := within
    exact closed start value rest (fun inside => fresh (suffix.subset inside)) reads member

theorem substituted_of_unchanged {exchange : α → Text → Text} {text : Text}
    (takes : TakesPart reader)
    (same : ∀ start value rest, start <:+ text → reader start = some (value, rest) →
      exchange value (taken start rest) = taken start rest) :
    substituted reader exchange text = text := by
  refine Eq.trans (congrArg List.flatten (List.map_congr_left fun stretch listed => ?_))
    (text_scan takes text)
  have within := within_of_mem_scanFrom listed
  cases stretch with
  | plain c => rfl
  | hit value part =>
    obtain ⟨start, rest, suffix, reads, rfl⟩ := within
    exact same start value rest suffix reads

theorem mem_findings_iff {value : α} {part text : Text} :
    (value, part) ∈ findings reader text ↔ .hit value part ∈ scan reader text := by
  simp only [findings, List.mem_filterMap]
  constructor
  · rintro ⟨stretch, listed, found⟩
    cases stretch with
    | plain c => cases found
    | hit other text =>
      cases found
      exact listed
  · exact fun listed => ⟨_, listed, rfl⟩

theorem exists_reads_of_mem_findings {value : α} {part text : Text}
    (member : (value, part) ∈ findings reader text) :
    ∃ start rest, start <:+ text ∧ reader start = some (value, rest) ∧ part = taken start rest :=
  within_of_mem_scanFrom (mem_findings_iff.mp member)

theorem findings_of_not_mem {m : Char}
    (needs : ∀ start reading, reader start = some reading → m ∈ start)
    {text : Text} (fresh : m ∉ text) : findings reader text = [] := by
  refine List.eq_nil_iff_forall_not_mem.mpr fun ⟨value, part⟩ member => ?_
  obtain ⟨start, rest, suffix, reads, _⟩ := exists_reads_of_mem_findings member
  exact fresh (suffix.subset (needs start _ reads))

theorem findings_cons {c : Char} {cs : Text} (other : reader (c :: cs) = none) :
    findings reader (c :: cs) = findings reader cs := by
  simp [findings, scan_of_none other]

theorem substituted_cons {exchange : α → Text → Text} {c : Char} {cs : Text}
    (other : reader (c :: cs) = none) :
    substituted reader exchange (c :: cs) = c :: substituted reader exchange cs := by
  simp [substituted, scan, scanFrom, other]

theorem substituted_of_reads {part rest : Text} {value : α} (nonempty : part ≠ [])
    (reads : reader (part ++ rest) = some (value, rest)) (exchange : α → Text → Text) :
    substituted reader exchange (part ++ rest) =
      exchange value part ++ substituted reader exchange rest := by
  rw [substituted, scan_of_reads nonempty reads, List.flatMap_cons, substituted]

theorem substituted_of_not_mem {reader : Reader α} {m : Char}
    (needs : ∀ start reading, reader start = some reading → m ∈ start) (exchange : α → Text → Text)
    {text : Text} (fresh : m ∉ text) : substituted reader exchange text = text := by
  induction text with
  | nil => rfl
  | cons c cs ih =>
    have other : reader (c :: cs) = none :=
      Option.eq_none_iff_forall_ne_some.mpr fun reading reads => fresh (needs _ reading reads)
    rw [substituted_cons other, ih fun member => fresh (List.mem_cons_of_mem c member)]

theorem findings_append_of_none {text : Text} (never : ∀ c ∈ text, ∀ cs, reader (c :: cs) = none)
    (rest : Text) : findings reader (text ++ rest) = findings reader rest := by
  rw [findings, scan_append_of_none never, List.filterMap_append, findings, List.filterMap_map]
  simp

theorem substituted_append_of_none {text : Text} (never : ∀ c ∈ text, ∀ cs, reader (c :: cs) = none)
    (exchange : α → Text → Text) (rest : Text) :
    substituted reader exchange (text ++ rest) = text ++ substituted reader exchange rest := by
  rw [substituted, scan_append_of_none never, List.flatMap_append, substituted, List.flatMap_map]
  simp

theorem substituted_of_unfound {text : Text} (takes : TakesPart reader)
    (none : findings reader text = []) (exchange : α → Text → Text) :
    substituted reader exchange text = text := by
  refine Eq.trans (congrArg List.flatten (List.map_congr_left fun stretch listed => ?_))
    (text_scan takes text)
  cases stretch with
  | plain c => rfl
  | hit value part =>
    have found : (value, part) ∈ findings reader text := mem_findings_iff.mpr listed
    rw [none] at found
    cases found

theorem TakesPart.length_erased_le (takes : TakesPart reader) (text : Text) :
    (erased reader text).length ≤ text.length := by
  unfold erased
  induction text using takes.scan_induction with
  | nil => exact Nat.le_refl 0
  | plain c text unread ih =>
    rw [substituted_cons unread]
    exact Nat.succ_le_succ ih
  | hit value part rest nonempty reads ih =>
    rw [substituted_of_reads nonempty reads, List.nil_append, List.length_append]
    omega

theorem TakesPart.findings_of_length_erased (takes : TakesPart reader) {text : Text}
    (whole : text.length ≤ (erased reader text).length) : findings reader text = [] := by
  unfold erased at whole
  induction text using takes.scan_induction with
  | nil => rfl
  | plain c text unread ih =>
    rw [substituted_cons unread] at whole
    rw [findings_cons unread]
    exact ih (Nat.le_of_succ_le_succ whole)
  | hit value part rest nonempty reads _ =>
    have short := takes.length_erased_le rest
    have some := List.length_pos_iff.mpr nonempty
    rw [substituted_of_reads nonempty reads, List.nil_append, ← erased, List.length_append] at whole
    omega

/-- A place in a text with exchanges is a place outside of the findings, or one in what stands for a
finding. -/
theorem TakesPart.suffix_substituted (takes : TakesPart reader) {m : Char}
    {exchange : α → Text → Text} {text tail : Text}
    (suffix : m :: tail <:+ substituted reader exchange text) :
    (∃ rest, m :: rest <:+ text ∧ reader (m :: rest) = none ∧
      tail = substituted reader exchange rest) ∨
      ∃ value part rest behind, part ++ rest <:+ text ∧ reader (part ++ rest) = some (value, rest) ∧
        m :: behind <:+ exchange value part ∧
        tail = behind ++ substituted reader exchange rest := by
  induction text using takes.scan_induction with
  | nil => cases List.suffix_nil.mp suffix
  | plain c text unread ih =>
    rw [substituted_cons unread] at suffix
    rcases List.suffix_cons_iff.mp suffix with same | later
    · obtain ⟨rfl, rfl⟩ := List.cons.inj same
      exact .inl ⟨text, List.suffix_refl _, unread, rfl⟩
    · have behind : text <:+ c :: text := List.suffix_cons c text
      rcases ih later with ⟨rest, place, facts⟩ | ⟨value, part, rest, inner, place, facts⟩
      · exact .inl ⟨rest, place.trans behind, facts⟩
      · exact .inr ⟨value, part, rest, inner, place.trans behind, facts⟩
  | hit value part rest nonempty reads ih =>
    rw [substituted_of_reads nonempty reads] at suffix
    rcases Text.suffix_append_cases suffix with later | ⟨behind, inside, same⟩
    · have behind : rest <:+ part ++ rest := List.suffix_append part rest
      rcases ih later with ⟨rest, place, facts⟩ | ⟨value, part, rest, inner, place, facts⟩
      · exact .inl ⟨rest, place.trans behind, facts⟩
      · exact .inr ⟨value, part, rest, inner, place.trans behind, facts⟩
    · exact .inr ⟨value, part, rest, behind, List.suffix_refl _, reads, inside, same⟩

theorem TakesPart.head_substituted (takes : TakesPart reader) {exchange : α → Text → Text}
    {text : Text} {c : Char}
    (foreign : ∀ value part rest, reader (part ++ rest) = some (value, rest) →
      ∃ d ds, exchange value part = d :: ds ∧ d ≠ c)
    (starts : (substituted reader exchange text).head? = some c) : text.head? = some c := by
  cases text with
  | nil => cases starts
  | cons d text =>
    cases found : reader (d :: text) with
    | none =>
      rw [substituted_cons found] at starts
      exact starts
    | some reading =>
      obtain ⟨part, nonempty, split⟩ := takes _ _ _ found
      rw [split] at found starts
      obtain ⟨e, es, same, other⟩ := foreign _ part _ found
      rw [substituted_of_reads nonempty found, same] at starts
      exact absurd (Option.some.inj starts) other

end Reader
end Tabletop
