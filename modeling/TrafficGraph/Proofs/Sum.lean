import Mathlib.Algebra.BigOperators.Group.List.Basic
import Mathlib.Algebra.GroupWithZero.Nat

/-!
# Sums over lists

The counters of a session and the runs that are left to a schedule are both sums of a number
over the items of a list.
-/

namespace TrafficGraph

variable {α : Type}

/-- The sum of a number over the items of a list. -/
def sumOf (number : α → Nat) (items : List α) : Nat :=
  (items.map number).sum

@[simp] theorem sumOf_nil (number : α → Nat) : sumOf number [] = 0 := rfl

@[simp] theorem sumOf_cons
    (number : α → Nat)
    (item : α)
    (items : List α) :
    sumOf number (item :: items) = number item + sumOf number items := rfl

theorem sumOf_singleton (number : α → Nat) (item : α) : sumOf number [item] = number item :=
  List.sum_singleton

theorem sumOf_append
    (number : α → Nat)
    (first second : List α) :
    sumOf number (first ++ second) = sumOf number first + sumOf number second := by
  rw [sumOf, List.map_append, List.sum_append]
  rfl

/-- The order of the items does not matter. -/
theorem sumOf_perm
    (number : α → Nat)
    {first second : List α}
    (perm : first.Perm second) :
    sumOf number first = sumOf number second :=
  (perm.map number).sum_eq

theorem sumOf_eq_zero_iff
    {number : α → Nat}
    {items : List α} :
    sumOf number items = 0 ↔ ∀ item ∈ items, number item = 0 :=
  List.sum_eq_zero_iff_forall_eq_nat.trans List.forall_mem_map

theorem sumOf_map
    {β : Type}
    (change : α → β)
    (number : β → Nat)
    (items : List α) :
    sumOf number (items.map change) = sumOf (fun item => number (change item)) items := by
  rw [sumOf, List.map_map]
  rfl

theorem sumOf_add
    (first second : α → Nat)
    (items : List α) :
    sumOf (fun item => first item + second item) items =
      sumOf first items + sumOf second items :=
  List.sum_map_add

theorem sumOf_le_sumOf
    {first second : α → Nat}
    {items : List α}
    (ordered : ∀ item ∈ items, first item ≤ second item) :
    sumOf first items ≤ sumOf second items := by
  induction items with
  | nil => exact Nat.le_refl _
  | cons item items inductionHypothesis =>
      obtain ⟨here, others⟩ := List.forall_mem_cons.1 ordered
      rw [sumOf_cons, sumOf_cons]
      exact Nat.add_le_add here (inductionHypothesis others)

theorem sumOf_le_mul_length
    {bound : Nat}
    {number : α → Nat}
    {items : List α}
    (bounded : ∀ item ∈ items, number item ≤ bound) :
    sumOf number items ≤ bound * items.length := by
  induction items with
  | nil => exact Nat.zero_le _
  | cons item items inductionHypothesis =>
      obtain ⟨here, others⟩ := List.forall_mem_cons.1 bounded
      rw [sumOf_cons, List.length_cons, Nat.mul_succ, Nat.add_comm]
      exact Nat.add_le_add (inductionHypothesis others) here

/-- The items of a kind have the same sum as all items if the others do not count. -/
theorem sumOf_filter
    (kind : α → Bool)
    (number : α → Nat)
    (items : List α) :
    sumOf number (items.filter kind) =
      sumOf (fun item => if kind item then number item else 0) items := by
  have others : ((items.filter fun item => decide ¬kind item).map fun _ => 0).sum = 0 :=
    sumOf_eq_zero_iff.2 fun _ _ => rfl
  rw [sumOf, sumOf, List.sum_map_ite, others, Nat.add_zero]
  simp only [Bool.decide_eq_true]

/-- Counting the items of a kind is adding up the same number for each of them. -/
theorem sumOf_ite
    (kind : α → Bool)
    (number : Nat)
    (items : List α) :
    sumOf (fun item => if kind item then number else 0) items =
      number * items.countP kind := by
  rw [← sumOf_filter, sumOf, List.map_const', List.sum_replicate, Nat.nsmul_eq_mul, Nat.mul_comm,
    List.countP_eq_length_filter]

theorem sumOf_one (items : List α) : sumOf (fun _ => 1) items = items.length := by
  rw [sumOf, List.map_const', List.sum_replicate, Nat.nsmul_eq_mul, Nat.mul_one]

/-- The sum over items is the sum over their groups, if every group has its key in a list
without duplicates. -/
theorem sumOf_groups
    {κ : Type}
    [DecidableEq κ]
    (key : α → κ)
    (number : α → Nat)
    {keys : List κ}
    (distinct : keys.Nodup)
    {items : List α}
    (covered : ∀ item ∈ items, key item ∈ keys) :
    sumOf (fun name => sumOf number (items.filter (key · = name))) keys =
      sumOf number items := by
  induction items with
  | nil => exact sumOf_eq_zero_iff.2 fun _ _ => rfl
  | cons item items inductionHypothesis =>
      obtain ⟨itemCovered, othersCovered⟩ := List.forall_mem_cons.1 covered
      have split (name : κ) : sumOf number ((item :: items).filter (key · = name)) =
          (if decide (name = key item) then number item else 0) +
            sumOf number (items.filter (key · = name)) := by
        by_cases same : key item = name
        · simp [same]
        · simp [same, Ne.symm same]
      have once : keys.countP (fun name => decide (name = key item)) = 1 :=
        distinct.count.trans (if_pos itemCovered)
      simp only [split]
      rw [sumOf_cons, ← inductionHypothesis othersCovered, sumOf_add, sumOf_ite, once,
        Nat.mul_one]

/-- Cutting the parts of a sum at a bound makes no difference if the sum is cut there. -/
theorem min_sumOf_min
    (bound : Nat)
    (number : α → Nat)
    (items : List α) :
    min bound (sumOf (fun item => min bound (number item)) items) =
      min bound (sumOf number items) := by
  induction items with
  | nil => rfl
  | cons item items inductionHypothesis =>
      rw [sumOf_cons, sumOf_cons]
      omega

theorem sumOf_congr
    {first second : α → Nat}
    {items : List α}
    (same : ∀ item ∈ items, first item = second item) :
    sumOf first items = sumOf second items :=
  congrArg List.sum (List.map_congr_left same)

end TrafficGraph
