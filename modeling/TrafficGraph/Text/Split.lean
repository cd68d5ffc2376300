/-!
# Pieces between separators

A list with `n` separators has `n + 1` pieces, the last of which follows the
last separator and may be empty like any other.  Joining the pieces again with
the separator gives the list back.
-/

namespace TrafficGraph
namespace Text

/-- The stretches of a list before, between and after its separators. -/
def pieces {α : Type} [BEq α] (separator : α) : List α → List (List α)
  | [] => [[]]
  | item :: rest =>
    if item == separator then [] :: pieces separator rest
    else match pieces separator rest with
      | [] => [[item]]
      | first :: others => (item :: first) :: others

/-- The stretches joined by a separator. -/
def join {α : Type} (separator : α) : List (List α) → List α
  | [] => []
  | [piece] => piece
  | piece :: others => piece ++ separator :: join separator others

@[simp] theorem pieces_nil {α : Type} [BEq α] (separator : α) :
    pieces separator [] = [[]] := rfl

/-- There is always a piece. -/
theorem pieces_ne_nil {α : Type} [BEq α] (separator : α) (items : List α) :
    pieces separator items ≠ [] := by
  cases items with
  | nil => simp
  | cons item rest =>
    rw [pieces]
    split
    · simp
    · split <;> simp

/-- Joining the pieces of a list gives the list back. -/
theorem join_pieces {α : Type} [BEq α] [LawfulBEq α] (separator : α) (items : List α) :
    join separator (pieces separator items) = items := by
  induction items with
  | nil => rfl
  | cons item rest inductionHypothesis =>
    rw [pieces]
    split
    · next equality =>
      have same : item = separator := by simpa using equality
      cases shape : pieces separator rest with
      | nil => exact absurd shape (pieces_ne_nil separator rest)
      | cons first others =>
        rw [shape] at inductionHypothesis
        simp [join, inductionHypothesis, same]
    · cases shape : pieces separator rest with
      | nil => exact absurd shape (pieces_ne_nil separator rest)
      | cons first others =>
        rw [shape] at inductionHypothesis
        cases others with
        | nil => simpa [join] using inductionHypothesis
        | cons second more => simpa [join] using inductionHypothesis

end Text
end TrafficGraph
