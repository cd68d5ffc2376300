import TrafficGraph.Proofs.Graph.Freshness
import TrafficGraph.Proofs.Graph.Recency
import TrafficGraph.Proofs.Sum

/-!
# Counted demotions

A decay step counts the entries that it demotes, each as often as its rank rises.  So a
step that counts nothing leaves the graph as it is.
-/

namespace TrafficGraph
namespace DecayOutcome

/-- The number of demoted entries. -/
def count (outcome : DecayOutcome) : Nat :=
  outcome.faded + outcome.idled

theorem changed_iff {outcome : DecayOutcome} : outcome.changed = true ↔ 0 < outcome.count :=
  decide_eq_true_iff

theorem count_add (first second : DecayOutcome) :
    (first.add second).count = first.count + second.count := by
  simp only [count, add]
  omega

/-- What the outcomes of some entries come to is the sum of what each comes to. -/
theorem sum_eq_sumOf
    (number : DecayOutcome → Nat)
    (number_zero : number zero = 0)
    (number_add : ∀ first second, number (add first second) = number first + number second)
    (outcomes : List DecayOutcome) :
    number (sum outcomes) = sumOf number outcomes := by
  have accumulated (start : DecayOutcome) :
      number (outcomes.foldl add start) = number start + sumOf number outcomes := by
    induction outcomes generalizing start with
    | nil => rfl
    | cons outcome outcomes inductionHypothesis =>
        rw [List.foldl_cons, inductionHypothesis, number_add, sumOf_cons, Nat.add_assoc]
  rw [sum, accumulated, number_zero, Nat.zero_add]

end DecayOutcome

namespace Recency

/-- The outcome of a step for one entry. -/
def demotion (thresholds : Thresholds) (now : UInt64) (recency : Recency) : DecayOutcome :=
  .ofStep recency.activity (recency.decay thresholds now).activity

/-- What is counted for an entry is the rise of its rank. -/
theorem rank_decay
    (thresholds : Thresholds)
    (now : UInt64)
    (recency : Recency) :
    (recency.decay thresholds now).activity.rank =
      recency.activity.rank + (recency.demotion thresholds now).count := by
  obtain ⟨firstSeen, lastSeen, activity⟩ := recency
  cases activity with
  | active =>
      simp only [demotion, decay, Activity.next]
      split <;> rfl
  | fading =>
      simp only [demotion, decay, Activity.next]
      split <;> rfl
  | idle => rfl

/-- An entry for which nothing is counted stays as it is. -/
theorem decay_of_count_eq_zero
    {thresholds : Thresholds}
    {now : UInt64}
    {recency : Recency}
    (uncounted : (recency.demotion thresholds now).count = 0) :
    recency.decay thresholds now = recency := by
  have same : (recency.decay thresholds now).activity = recency.activity := by
    apply Activity.eq_of_rank_eq
    rw [rank_decay, uncounted, Nat.add_zero]
  exact congrArg (Recency.mk recency.firstSeen recency.lastSeen) same

end Recency

namespace Graph

/-- The entries are counted one by one. -/
theorem demotions_eq (thresholds : Thresholds) (now : UInt64) (graph : Graph) :
    graph.demotions thresholds now =
      DecayOutcome.sum (graph.recencies.map (Recency.demotion thresholds now)) := by
  rw [demotions, recencies, List.map_append, List.map_map, List.map_map]
  rfl

/-- A number that outcomes add up comes to the sum of what each entry brings to it. -/
theorem demotions_eq_sumOf
    (number : DecayOutcome → Nat)
    (number_zero : number .zero = 0)
    (number_add : ∀ first second : DecayOutcome,
      number (first.add second) = number first + number second)
    (thresholds : Thresholds)
    (now : UInt64)
    (graph : Graph) :
    number (graph.demotions thresholds now) =
      sumOf (fun recency => number (recency.demotion thresholds now)) graph.recencies := by
  rw [demotions_eq, DecayOutcome.sum_eq_sumOf number number_zero number_add, sumOf_map]

theorem count_demotions (thresholds : Thresholds) (now : UInt64) (graph : Graph) :
    (graph.demotions thresholds now).count =
      sumOf (fun recency => (recency.demotion thresholds now).count) graph.recencies :=
  demotions_eq_sumOf DecayOutcome.count rfl DecayOutcome.count_add thresholds now graph

/-- A step that demotes nothing leaves the graph as it is. -/
theorem decayed_of_not_changed
    {thresholds : Thresholds}
    {now : UInt64}
    {graph : Graph}
    (unchanged : ¬(graph.demotions thresholds now).changed = true) :
    graph.decayed thresholds now = graph := by
  have uncounted : (graph.demotions thresholds now).count = 0 :=
    Nat.eq_zero_of_not_pos fun positive => unchanged (DecayOutcome.changed_iff.2 positive)
  rw [count_demotions, sumOf_eq_zero_iff] at uncounted
  apply decayed_eq_self
  intro recency listed
  exact Recency.decay_of_count_eq_zero (uncounted recency listed)

end Graph
end TrafficGraph
