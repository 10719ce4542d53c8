import Tabletop.Outcome.Classify

/-! What inline blocks make of the thresholds. For each kind the last block whose value is a number
gives the check, and without one the check stays as it was. So blocks of the two kinds never meet,
and a block without a number might as well not be there. -/
namespace Tabletop

namespace CriticalThresholds

def of (thresholds : CriticalThresholds) : CriticalKind → Option CriticalCheck
  | .success => thresholds.success
  | .failure => thresholds.failure

theorem ext_of {a b : CriticalThresholds} (same : ∀ kind, a.of kind = b.of kind) : a = b := by
  cases a
  cases b
  cases same .success
  cases same .failure
  rfl

theorem of_set (thresholds : CriticalThresholds) (kind other : CriticalKind)
    (check : CriticalCheck) :
    (thresholds.set kind check).of other =
      if kind = other then some check else thresholds.of other := by
  cases kind <;> cases other <;> rfl

end CriticalThresholds

namespace Context

variable {context : Context} {kind : CriticalKind} {block : CriticalBlock}
    {blocks before after : List CriticalBlock}
  {check : CriticalCheck} {base result : Option CriticalCheck}

def check? (context : Context) (block : CriticalBlock) : Option CriticalCheck :=
  (context.evaluate block.value).map fun value => ⟨block.sign, value, block.onNaturalDie⟩

/-- The check of the last block of a kind that stands for one, or else the one there was. -/
inductive Settles (context : Context) (kind : CriticalKind) (blocks : List CriticalBlock)
    (base : Option CriticalCheck) : Option CriticalCheck → Prop where
  | last {before after : List CriticalBlock} {block : CriticalBlock} {value : Amount} :
      blocks = before ++ block :: after → block.kind = kind →
        context.evaluate block.value = some value →
        (∀ later ∈ after, later.kind = kind → context.evaluate later.value = none) →
          Settles context kind blocks base (some ⟨block.sign, value, block.onNaturalDie⟩)
  | base : (∀ block ∈ blocks, block.kind = kind → context.evaluate block.value = none) →
      Settles context kind blocks base base

def checkFor? (context : Context) (kind : CriticalKind) (block : CriticalBlock) :
    Option CriticalCheck :=
  if block.kind = kind then context.check? block else none

theorem checkFor?_eq_some_iff : context.checkFor? kind block = some check ↔
    block.kind = kind ∧ ∃ value, context.evaluate block.value = some value ∧
      ⟨block.sign, value, block.onNaturalDie⟩ = check := by
  simp only [checkFor?, check?, Option.ite_none_right_eq_some, Option.map_eq_some_iff]

theorem checkFor?_eq_none_iff :
    context.checkFor? kind block = none ↔
      (block.kind = kind → context.evaluate block.value = none) := by
  simp only [checkFor?, check?, ite_eq_right_iff, Option.map_eq_none_iff]

theorem applyBlocks_cons (block : CriticalBlock) (blocks : List CriticalBlock)
    (thresholds : CriticalThresholds) :
    context.applyBlocks (block :: blocks) thresholds =
      context.applyBlocks blocks (context.applyBlocks [block] thresholds) := rfl

theorem of_applyBlocks_singleton (block : CriticalBlock) (thresholds : CriticalThresholds) :
    (context.applyBlocks [block] thresholds).of kind =
      (context.checkFor? kind block).or (thresholds.of kind) := by
  simp only [applyBlocks, checkFor?, check?, List.foldl_cons, List.foldl_nil]
  cases context.evaluate block.value with
  | none => simp
  | some value =>
    rw [CriticalThresholds.of_set]
    split <;> rfl

theorem of_applyBlocks (blocks : List CriticalBlock) (thresholds : CriticalThresholds) :
    (context.applyBlocks blocks thresholds).of kind =
      (blocks.reverse.findSome? (context.checkFor? kind)).or (thresholds.of kind) := by
  induction blocks generalizing thresholds with
  | nil => rfl
  | cons block blocks ih =>
    rw [applyBlocks_cons, ih, of_applyBlocks_singleton, List.reverse_cons, List.findSome?_append,
      Option.or_assoc]
    congr 1
    cases found : context.checkFor? kind block <;> simp [found]

theorem settles_findSome? (blocks : List CriticalBlock) (base : Option CriticalCheck) :
    context.Settles kind blocks base
      ((blocks.reverse.findSome? (context.checkFor? kind)).or base) := by
  cases found : blocks.reverse.findSome? (context.checkFor? kind) with
  | none =>
    rw [List.findSome?_eq_none_iff] at found
    exact .base fun block member =>
      checkFor?_eq_none_iff.mp (found block (List.mem_reverse.mpr member))
  | some check =>
    obtain ⟨after, block, before, split, gives, idle⟩ := List.findSome?_eq_some_iff.mp found
    obtain ⟨same, value, valued, rfl⟩ := checkFor?_eq_some_iff.mp gives
    rw [List.reverse_eq_iff, List.reverse_append, List.reverse_cons, List.append_assoc] at split
    exact .last split same valued fun later member =>
      checkFor?_eq_none_iff.mp (idle later (List.mem_reverse.mp member))

theorem findSome?_checkFor (blocks : List CriticalBlock) :
    blocks.findSome? (context.checkFor? kind) =
      (blocks.filter (·.kind = kind)).findSome? context.check? := by
  induction blocks with
  | nil => rfl
  | cons block blocks ih =>
    by_cases same : block.kind = kind <;> simp [List.findSome?_cons, checkFor?, same, ih]

theorem applyBlocks_of_filter {others : List CriticalBlock}
    (same : ∀ kind, others.filter (·.kind = kind) = blocks.filter (·.kind = kind))
    (thresholds : CriticalThresholds) :
    context.applyBlocks others thresholds = context.applyBlocks blocks thresholds := by
  refine CriticalThresholds.ext_of fun kind => ?_
  rw [of_applyBlocks, of_applyBlocks, findSome?_checkFor, findSome?_checkFor, List.filter_reverse,
    same kind, List.filter_reverse]

theorem applyBlocks_insert (unvalued : context.evaluate block.value = none)
    (thresholds : CriticalThresholds) :
    context.applyBlocks (before ++ block :: after) thresholds =
      context.applyBlocks (before ++ after) thresholds := by
  refine CriticalThresholds.ext_of fun kind => ?_
  have idle : context.checkFor? kind block = none := checkFor?_eq_none_iff.mpr fun _ => unvalued
  simp [of_applyBlocks, List.findSome?_append, idle]

/-- What blocks make of thresholds, and what of the blocks does not count. -/
structure Overridden (context : Context) (blocks : List CriticalBlock)
    (thresholds result : CriticalThresholds) : Prop where
  settled : ∀ kind, context.Settles kind blocks (thresholds.of kind) (result.of kind)
  interleaved : ∀ others : List CriticalBlock,
    (∀ kind, others.filter (·.kind = kind) = blocks.filter (·.kind = kind)) →
      context.applyBlocks others thresholds = result
  unvalued : ∀ before block after, blocks = before ++ after → context.evaluate block.value = none →
    context.applyBlocks (before ++ block :: after) thresholds = result

/-- Blocks override each threshold by the last check for it. -/
theorem applyBlocks_overridden (context : Context) (blocks : List CriticalBlock)
    (thresholds : CriticalThresholds) :
    context.Overridden blocks thresholds (context.applyBlocks blocks thresholds) where
  settled kind := by
    rw [of_applyBlocks]
    exact settles_findSome? blocks (thresholds.of kind)
  interleaved others same := applyBlocks_of_filter same thresholds
  unvalued before block after split unvalued := by
    rw [split]
    exact applyBlocks_insert unvalued thresholds

end Context
end Tabletop
