import TrafficGraph.Window

/-!
# Windows and the histories behind them

A window that was filled by pushes is a function of its history: it holds the
newest items up to its capacity, in order, and what it hands out behind a place
that it still covers is the rest of the history from there.
-/

namespace TrafficGraph
namespace Window

variable {α : Type}

/-- Two adjacent stretches of a history join to one. -/
theorem extract_append_extract
    {history : List α}
    {first middle last : Nat}
    (ordered : first ≤ middle)
    (behind : middle ≤ last) :
    history.extract first middle ++ history.extract middle last =
      history.extract first last := by
  have offset : first + (middle - first) = middle := by omega
  have rest : history.drop middle = (history.drop first).drop (middle - first) := by
    rw [List.drop_drop, offset]
  have length_eq : last - first = middle - first + (last - middle) := by omega
  rw [List.extract_eq_take_drop, List.extract_eq_take_drop, List.extract_eq_take_drop, rest,
    length_eq, List.take_add]

theorem extract_append_of_le
    {history later : List α}
    {first last : Nat}
    (inside : last ≤ history.length) :
    (history ++ later).extract first last = history.extract first last := by
  rw [List.extract_eq_take_drop, List.extract_eq_take_drop]
  by_cases ordered : first ≤ last
  · rw [List.drop_append_of_le_length (by omega),
      List.take_append_of_le_length (by simp; omega)]
  · have empty : last - first = 0 := by omega
    simp [empty]

theorem extract_length
    (history : List α)
    (first : Nat) :
    history.extract first history.length = history.drop first := by
  rw [List.extract_eq_take_drop]
  exact List.take_of_length_le (by simp)

/-- The items at successive places of a history make up a stretch of it. -/
theorem filterMap_range'
    (history : List α)
    (first count : Nat) :
    (List.range' first count).filterMap (history[·]?) = (history.drop first).take count := by
  induction count generalizing first with
  | zero => rfl
  | succ count inductionHypothesis =>
      rw [List.range'_succ, List.filterMap_cons, inductionHypothesis (first + 1)]
      by_cases inside : first < history.length
      · rw [List.getElem?_eq_getElem inside, List.drop_eq_getElem_cons inside,
          List.take_succ_cons]
      · rw [List.getElem?_eq_none (by omega), List.drop_eq_nil_of_le (by omega),
          List.drop_eq_nil_of_le (by omega), List.take_nil, List.take_nil]

/-- A window holds the newest items of a history and counts all of them. -/
structure Shows (capacity : Nat) (history : List α) (window : Window α) : Prop where
  /-- The held items are the newest ones, up to the capacity. -/
  recent_eq : window.recent = history.reverse.take capacity
  /-- Every item of the history is counted. -/
  total_eq : window.total = history.length

theorem shows_empty (capacity : Nat) : Shows capacity [] (empty : Window α) :=
  ⟨by simp [empty], rfl⟩

namespace Shows

variable {capacity : Nat} {history : List α} {window : Window α}

/-- Pushing an item extends the history that a window shows. -/
theorem push
    (shows : Shows capacity history window)
    (item : α) :
    Shows capacity (history ++ [item]) (window.push capacity item) := by
  refine ⟨?_, by simp [shows.total_eq]⟩
  rw [Window.push, shows.recent_eq, List.reverse_append]
  cases capacity with
  | zero => simp
  | succ room => simp [List.take_take]

theorem size_eq (shows : Shows capacity history window) :
    window.size = min capacity history.length := by
  rw [size, shows.recent_eq, List.length_take, List.length_reverse]

/-- What exceeds the capacity was let go. -/
theorem dropped_eq (shows : Shows capacity history window) :
    window.dropped = history.length - capacity := by
  rw [dropped, shows.size_eq, shows.total_eq]
  omega

/-- The items behind a place that the window still covers are the rest of the
history from there. -/
theorem itemsSince_eq
    (shows : Shows capacity history window)
    {passed : Nat}
    (covered : window.dropped ≤ passed) :
    window.itemsSince passed = history.drop passed := by
  rw [shows.dropped_eq] at covered
  rw [itemsSince, shows.recent_eq, shows.total_eq, List.take_take, List.reverse_take,
    List.reverse_reverse, List.length_reverse]
  by_cases inside : passed ≤ history.length
  · congr 1
    omega
  · rw [List.drop_eq_nil_of_le (by omega), List.drop_eq_nil_of_le (by omega)]

/-- The held items are the history from the oldest one that was not let go. -/
theorem items_eq (shows : Shows capacity history window) :
    window.items = history.drop window.dropped := by
  have all : window.itemsSince window.dropped = window.items := by
    have fits : window.recent.length ≤ window.total - window.dropped := by
      rw [dropped, size, shows.recent_eq, shows.total_eq]
      simp
      omega
    rw [itemsSince, items, List.take_of_length_le fits]
  rw [← all, shows.itemsSince_eq (Nat.le_refl _)]

/-- Behind a place that the window no longer covers it hands out all that it holds. -/
theorem itemsSince_eq_drop_max
    (shows : Shows capacity history window)
    (passed : Nat) :
    window.itemsSince passed = history.drop (max passed window.dropped) := by
  rcases Nat.le_total window.dropped passed with covered | lost
  · rw [Nat.max_eq_left covered]
    exact shows.itemsSince_eq covered
  · have fits : window.recent.length ≤ window.total - passed := by
      rw [shows.dropped_eq] at lost
      rw [shows.recent_eq, shows.total_eq, List.length_take, List.length_reverse]
      omega
    rw [Nat.max_eq_right lost, ← shows.items_eq, itemsSince, items,
      List.take_of_length_le fits]

theorem dropped_le (shows : Shows capacity history window) :
    window.dropped ≤ history.length := by
  rw [shows.dropped_eq]
  omega

end Shows
end Window
end TrafficGraph
