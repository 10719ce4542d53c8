import Tabletop.Expr.Total

/-! Totals are exact. A rolled expression has a total exactly when its value over the whole numbers
exists and no node on the way leaves the range of its type, and then the total is that value. -/
namespace Tabletop

def Op.value? (op : Op) (a b : Int) : Option Int :=
  match op with
  | add => some (a + b)
  | sub => some (a - b)
  | mul => some (a * b)
  | divDown => if b = 0 then none else some (a.tdiv b)
  | divUp => if b = 0 then none else some (if a.tmod b = 0 then a.tdiv b else a.tdiv b + 1)

/-- The value over the whole numbers, where nothing is too large; there is none where a node divides
by zero. -/
def RolledExpr.value? : RolledExpr → Option Int
  | .number n => some n.value
  | .leaf rolled => some rolled.sum
  | .neg e => (RolledExpr.value? e).map fun n => -n
  | .binary op a b => (RolledExpr.value? a).bind fun left =>
      (RolledExpr.value? b).bind (op.value? left)

def Expr.nodes {Leaf : Type} : Expr Leaf → List (Expr Leaf)
  | number n => [number n]
  | leaf x => [leaf x]
  | neg e => neg e :: e.nodes
  | binary op a b => binary op a b :: (a.nodes ++ b.nodes)

def RolledExpr.InRange (node : RolledExpr) : Prop :=
  ∃ n, node.value? = some n ∧ -2147483648 ≤ n ∧ n ≤ 2147483647

theorem RolledExpr.inRange_iff {node : RolledExpr} :
    node.InRange ↔ ∃ n : Amount, node.value? = some n.value := by
  constructor
  · rintro ⟨n, exact, lower, upper⟩
    exact ⟨⟨n, lower, upper⟩, exact⟩
  · rintro ⟨n, exact⟩
    exact ⟨n.value, exact, n.lower, n.upper⟩

def Amount.checked (error : ε) (n : Int) : Except ε Amount :=
  match ofInt? n with
  | some amount => .ok amount
  | none => .error error

theorem Amount.checked_eq_ok_iff {error : ε} {m : Int} {n : Amount} :
    checked error m = .ok n ↔ m = n.value := by
  have found := @ofInt?_eq_some_iff m n
  unfold checked
  split
  · next amount same =>
    rw [same, Option.some.injEq] at found
    rw [Except.ok.injEq, found, eq_comm]
  · next outside =>
    rw [outside] at found
    simpa [eq_comm] using found

namespace Op

theorem apply_divDown (a b : Amount) :
    apply .divDown a b =
      if b.value = 0 then .error .division else Amount.checked .division (a.value.tdiv b.value) :=
  rfl

theorem apply_divUp (a b : Amount) :
    apply .divUp a b = (apply .divDown a b).bind fun q =>
      if a.value.tmod b.value = 0 then .ok q else Amount.checked .overflow (q.value + 1) := rfl

theorem exists_quotient {a b : Amount} {n : Int} (next : a.value.tdiv b.value + 1 = n)
    (upper : n ≤ 2147483647) : ∃ q : Amount, a.value.tdiv b.value = q.value := by
  have small := Int.natAbs_tdiv_le_natAbs a.value b.value
  have lower := a.lower
  have bound := a.upper
  exact ⟨⟨a.value.tdiv b.value, by omega, by omega⟩, rfl⟩

theorem divDown_eq_ok_iff {a b n : Amount} :
    apply .divDown a b = .ok n ↔ b.value ≠ 0 ∧ a.value.tdiv b.value = n.value := by
  rw [apply_divDown]
  split
  · next zero => simp [zero]
  · next divides => simp [divides, Amount.checked_eq_ok_iff]

theorem divUp_eq_ok_iff {a b n : Amount} :
    apply .divUp a b = .ok n ↔ ∃ q, apply .divDown a b = .ok q ∧
      (if a.value.tmod b.value = 0 then q.value else q.value + 1) = n.value := by
  rw [apply_divUp]
  cases apply .divDown a b with
  | error cause => simp [Except.bind]
  | ok q =>
    simp only [Except.bind, Except.ok.injEq, exists_eq_left']
    split
    · rw [Except.ok.injEq]
      exact ⟨congrArg _, Amount.ext⟩
    · exact Amount.checked_eq_ok_iff

theorem apply_eq_ok_iff {op : Op} {a b n : Amount} :
    op.apply a b = .ok n ↔ op.value? a.value b.value = some n.value := by
  cases op with
  | add | sub | mul =>
    rw [value?, Option.some.injEq]
    exact Amount.checked_eq_ok_iff
  | divDown =>
    rw [divDown_eq_ok_iff, value?]
    split <;> simp_all
  | divUp =>
    simp only [divUp_eq_ok_iff, divDown_eq_ok_iff, value?]
    constructor
    · rintro ⟨q, ⟨divides, quotient⟩, same⟩
      rw [if_neg divides, quotient, same]
    · intro same
      split at same
      · cases same
      · next divides =>
        rw [Option.some.injEq] at same
        split at same
        · next whole => exact ⟨n, ⟨divides, same⟩, if_pos whole⟩
        · next rest =>
          obtain ⟨q, quotient⟩ := exists_quotient same n.upper
          exact ⟨q, ⟨divides, quotient⟩, by rw [if_neg rest, ← quotient, same]⟩

end Op

namespace RolledExpr

theorem total_leaf_eq_ok_iff {rolled : Rolled} {n : Amount} :
    total (.leaf rolled) = .ok n ↔ rolled.sum ≤ 65535 ∧ (rolled.sum : Int) = n.value := by
  unfold total Rolled.total?
  split
  · next amount found =>
    split at found
    · next small =>
      cases found
      rw [Except.ok.injEq]
      exact ⟨fun same => ⟨small, congrArg Amount.value same⟩, fun same => Amount.ext same.2⟩
    · cases found
  · next missing =>
    split at missing
    · cases missing
    · next large => simp [large]

theorem total_neg_eq_ok_iff {e : RolledExpr} {n : Amount} :
    total (.neg e) = .ok n ↔ ∃ m, e.total = .ok m ∧ -m.value = n.value := by
  have shape :
      total (.neg e) = e.total.bind fun m => Amount.checked (.overflow (.neg e)) (-m.value) := rfl
  rw [shape]
  cases e.total with
  | error cause => simp [Except.bind]
  | ok m => simp [Except.bind, Amount.checked_eq_ok_iff]

theorem total_binary_eq_ok_iff {op : Op} {a b : RolledExpr} {n : Amount} :
    total (.binary op a b) = .ok n ↔ ∃ left right, a.total = .ok left ∧ b.total = .ok right ∧
      op.apply left right = .ok n := by
  simp only [total, bind, Except.bind]
  cases a.total with
  | error cause => simp
  | ok left =>
    cases b.total with
    | error cause => simp
    | ok right =>
      cases applied : op.apply left right with
      | ok amount => simp [applied]
      | error cause => cases cause <;> simp [applied]

theorem value?_of_total {expr : RolledExpr} {n : Amount} (total : expr.total = .ok n) :
    expr.value? = some n.value := by
  induction expr generalizing n with
  | number m =>
    cases total
    rfl
  | leaf rolled => exact congrArg some (total_leaf_eq_ok_iff.mp total).2
  | neg e ih =>
    obtain ⟨m, inner, same⟩ := total_neg_eq_ok_iff.mp total
    simp [value?, ih inner, same]
  | binary op a b ihLeft ihRight =>
    obtain ⟨left, right, first, second, applied⟩ := total_binary_eq_ok_iff.mp total
    simp [value?, ihLeft first, ihRight second, Op.apply_eq_ok_iff.mp applied]

theorem small_of_total {expr : RolledExpr} {n : Amount} (total : expr.total = .ok n) :
    ∀ rolled ∈ expr.leaves, rolled.sum ≤ 65535 := by
  induction expr generalizing n with
  | number m => simp [Expr.leaves]
  | leaf rolled => simpa [Expr.leaves] using (total_leaf_eq_ok_iff.mp total).1
  | neg e ih =>
    obtain ⟨m, inner, _⟩ := total_neg_eq_ok_iff.mp total
    exact ih inner
  | binary op a b ihLeft ihRight =>
    obtain ⟨left, right, first, second, _⟩ := total_binary_eq_ok_iff.mp total
    exact List.forall_mem_append.mpr ⟨ihLeft first, ihRight second⟩

theorem inRange_of_total {expr : RolledExpr} {n : Amount} (total : expr.total = .ok n) :
    expr.InRange :=
  inRange_iff.mpr ⟨n, value?_of_total total⟩

theorem nodes_of_total {expr : RolledExpr} {n : Amount} (total : expr.total = .ok n) :
    ∀ node ∈ expr.nodes, InRange node := by
  induction expr generalizing n with
  | number m => exact List.forall_mem_singleton.mpr (inRange_of_total total)
  | leaf rolled => exact List.forall_mem_singleton.mpr (inRange_of_total total)
  | neg e ih =>
    obtain ⟨m, inner, _⟩ := total_neg_eq_ok_iff.mp total
    exact List.forall_mem_cons.mpr ⟨inRange_of_total total, ih inner⟩
  | binary op a b ihLeft ihRight =>
    obtain ⟨left, right, first, second, _⟩ := total_binary_eq_ok_iff.mp total
    exact List.forall_mem_cons.mpr
      ⟨inRange_of_total total, List.forall_mem_append.mpr ⟨ihLeft first, ihRight second⟩⟩

theorem exists_total {expr : RolledExpr} (fits : ∀ node ∈ expr.nodes, InRange node)
    (small : ∀ rolled ∈ expr.leaves, rolled.sum ≤ 65535) : ∃ n, expr.total = .ok n := by
  induction expr with
  | number m => exact ⟨m, rfl⟩
  | leaf rolled =>
    have few : rolled.sum ≤ 65535 := small rolled (by simp [Expr.leaves])
    exact ⟨.ofSum rolled.sum few, total_leaf_eq_ok_iff.mpr ⟨few, rfl⟩⟩
  | neg e ih =>
    obtain ⟨whole, inner⟩ := List.forall_mem_cons.mp fits
    obtain ⟨m, first⟩ := ih inner small
    obtain ⟨n, value⟩ := inRange_iff.mp whole
    simp only [value?, value?_of_total first, Option.map_some, Option.some.injEq] at value
    exact ⟨n, total_neg_eq_ok_iff.mpr ⟨m, first, value⟩⟩
  | binary op a b ihLeft ihRight =>
    obtain ⟨whole, parts⟩ := List.forall_mem_cons.mp fits
    obtain ⟨fitsLeft, fitsRight⟩ := List.forall_mem_append.mp parts
    obtain ⟨smallLeft, smallRight⟩ := List.forall_mem_append.mp small
    obtain ⟨left, first⟩ := ihLeft fitsLeft smallLeft
    obtain ⟨right, second⟩ := ihRight fitsRight smallRight
    obtain ⟨n, value⟩ := inRange_iff.mp whole
    simp only [value?, value?_of_total first, value?_of_total second, Option.bind_some] at value
    exact ⟨n, total_binary_eq_ok_iff.mpr ⟨left, right, first, second, Op.apply_eq_ok_iff.mpr value⟩⟩

/-- A rolled expression has a total exactly when no node divides by zero, no set of dice sums to
more than 65535 and every node is an amount; the total is then its value over the whole numbers. -/
theorem total_eq_ok_iff {expr : RolledExpr} {n : Amount} :
    expr.total = .ok n ↔
      (∀ node ∈ expr.nodes, InRange node) ∧ (∀ rolled ∈ expr.leaves, rolled.sum ≤ 65535) ∧
        expr.value? = some n.value := by
  constructor
  · exact fun total => ⟨nodes_of_total total, small_of_total total, value?_of_total total⟩
  · rintro ⟨fits, small, value⟩
    obtain ⟨m, total⟩ := exists_total fits small
    have same : m.value = n.value := Option.some.inj ((value?_of_total total).symm.trans value)
    rw [total, Amount.ext same]

end RolledExpr
end Tabletop
