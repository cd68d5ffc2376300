/-!
# Windows on a history

A window holds the newest items of a history up to a capacity and counts all the
items that were ever pushed.  The count tells where in the history the held
items lie, so one who has passed so many items can ask for the rest of them.
-/

namespace TrafficGraph

/-- The newest items of a history. -/
structure Window (α : Type) where
  /-- The held items, newest first. -/
  recent : List α
  /-- The number of items that were ever pushed. -/
  total : Nat

namespace Window

variable {α : Type}

/-- The window on a history without items. -/
def empty : Window α := ⟨[], 0⟩

/-- Pushes an item and lets go of what exceeds the capacity. -/
def push (capacity : Nat) (item : α) (window : Window α) : Window α where
  recent := (item :: window.recent).take capacity
  total := window.total + 1

/-- The number of items that are held. -/
def size (window : Window α) : Nat :=
  window.recent.length

/-- The held items, oldest first. -/
def items (window : Window α) : List α :=
  window.recent.reverse

/-- The number of items that were let go. -/
def dropped (window : Window α) : Nat :=
  window.total - window.size

/-- The held items behind the first so many of the history, oldest first. -/
def itemsSince (passed : Nat) (window : Window α) : List α :=
  (window.recent.take (window.total - passed)).reverse

/-- The newest item. -/
def latest? (window : Window α) : Option α :=
  window.recent.head?

@[simp] theorem total_push (capacity : Nat) (item : α) (window : Window α) :
    (window.push capacity item).total = window.total + 1 := rfl

end Window
end TrafficGraph
