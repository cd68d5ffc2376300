import Mathlib.Data.List.DropRight
import TrafficGraph.Text.Trim

/-!
# Trimmed lists

Trimming leaves nothing to trim, ignores what is put at the ends if it would be dropped
anyway, and commutes with every change of the items that keeps apart what is dropped.
-/

namespace TrafficGraph
namespace Text

variable {α : Type} {dropped : α → Bool}

theorem trimEnds_eq_rdropWhile (items : List α) :
    trimEnds dropped items = (items.dropWhile dropped).rdropWhile dropped := rfl

theorem trimEnds_of_forall
    {items : List α}
    (kept : ∀ item ∈ items, dropped item = false) :
    trimEnds dropped items = items := by
  have front_eq : items.dropWhile dropped = items := by
    rw [List.dropWhile_eq_self_iff]
    intro nonempty
    simp [kept]
  have back_eq : items.rdropWhile dropped = items := by
    rw [List.rdropWhile_eq_self_iff]
    intro nonempty
    simp [kept]
  rw [trimEnds_eq_rdropWhile, front_eq, back_eq]

theorem trimEnds_append_left
    {front : List α}
    (blank : ∀ item ∈ front, dropped item = true)
    (items : List α) :
    trimEnds dropped (front ++ items) = trimEnds dropped items := by
  rw [trimEnds, List.dropWhile_append_of_pos blank, trimEnds]

theorem trimEnds_append_right
    (items : List α)
    {back : List α}
    (blank : ∀ item ∈ back, dropped item = true) :
    trimEnds dropped (items ++ back) = trimEnds dropped items := by
  have blankBackwards : ∀ item ∈ back.reverse, dropped item = true := by
    intro item listed
    exact blank item (List.mem_reverse.1 listed)
  rw [trimEnds, trimEnds, List.dropWhile_append]
  split
  · next empty =>
    -- The whole list is dropped in front, and then the back is as well.
    rw [List.isEmpty_iff.1 empty, List.dropWhile_eq_nil_iff.2 blank]
  · rw [List.reverse_append, List.dropWhile_append_of_pos blankBackwards]

/-- What begins like a list that has lost its front has none to lose. -/
theorem dropWhile_of_prefix
    {items kept : List α}
    (isFront : kept <+: items.dropWhile dropped) :
    kept.dropWhile dropped = kept := by
  cases kept with
  | nil => rfl
  | cons first rest =>
      obtain ⟨others, shape⟩ := isFront
      have notDropped := List.head?_dropWhile_not dropped items
      rw [← shape] at notDropped
      exact List.dropWhile_cons_of_neg (Bool.eq_false_iff.1 notDropped)

/-- A list that neither begins nor ends with what is dropped is left as it is. -/
theorem trimEnds_enclosed
    {first last : α}
    (firstKept : dropped first = false)
    (lastKept : dropped last = false)
    (inside : List α) :
    trimEnds dropped (first :: (inside ++ [last])) = first :: (inside ++ [last]) := by
  rw [trimEnds, List.dropWhile_cons_of_neg (Bool.eq_false_iff.1 firstKept), ← List.cons_append,
    List.reverse_append, List.reverse_singleton, List.singleton_append,
    List.dropWhile_cons_of_neg (Bool.eq_false_iff.1 lastKept), List.reverse_cons,
    List.reverse_reverse]

/-- Trimming leaves nothing of a list exactly if everything in it is dropped. -/
theorem trimEnds_eq_nil_iff
    {items : List α} :
    trimEnds dropped items = [] ↔ ∀ item ∈ items, dropped item = true := by
  rw [trimEnds_eq_rdropWhile, List.rdropWhile_eq_nil_iff]
  constructor
  · intro rest
    refine List.dropWhile_eq_nil_iff.1 ?_
    have notDropped := List.head?_dropWhile_not dropped items
    cases shape : items.dropWhile dropped with
    | nil => rfl
    | cons first others =>
        rw [shape] at rest notDropped
        exact absurd (rest first List.mem_cons_self) (Bool.eq_false_iff.1 notDropped)
  · intro blank
    rw [List.dropWhile_eq_nil_iff.2 blank]
    nofun

/-- A trimmed list has nothing to trim. -/
theorem trimEnds_trimEnds (items : List α) :
    trimEnds dropped (trimEnds dropped items) = trimEnds dropped items := by
  have front_eq : (trimEnds dropped items).dropWhile dropped = trimEnds dropped items :=
    dropWhile_of_prefix (List.rdropWhile_prefix dropped (items.dropWhile dropped))
  rw [trimEnds_eq_rdropWhile, front_eq, trimEnds_eq_rdropWhile, List.rdropWhile_idempotent]

theorem trimEnds_map
    {change : α → α}
    (same : ∀ item, dropped (change item) = dropped item)
    (items : List α) :
    trimEnds dropped (items.map change) = (trimEnds dropped items).map change := by
  have same_comp : dropped ∘ change = dropped := funext same
  rw [trimEnds, trimEnds, List.dropWhile_map, same_comp, ← List.map_reverse, List.dropWhile_map,
    same_comp, List.map_reverse]

end Text
end TrafficGraph
