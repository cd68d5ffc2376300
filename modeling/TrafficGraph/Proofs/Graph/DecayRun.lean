import Mathlib.Data.List.Forall2
import TrafficGraph.Proofs.Graph.Demotion

/-!
# Runs of decay steps

As long as nothing is observed, ranks only rise, one at a time and to at most two, and every
rise is counted once.  So what all steps of a run have counted is what the ranks have risen,
however clocks and thresholds change from step to step, and only so many steps can report a
change.  A step that has been done twice finds nothing left to demote.
-/

namespace TrafficGraph

/-- The thresholds and the clock of a decay step. -/
structure DecayCall where
  /-- The times after which entries are demoted. -/
  thresholds : Thresholds
  /-- The time that the clock shows. -/
  now : UInt64
  deriving DecidableEq

/-- A decay step and the graph to which it was done. -/
structure DecayStep where
  /-- The graph before the step. -/
  before : Graph
  /-- The thresholds and the clock. -/
  call : DecayCall

namespace DecayStep

/-- The graph after the step. -/
def after (step : DecayStep) : Graph :=
  (step.before.decay step.call.thresholds step.call.now).1

/-- What the step reports. -/
def outcome (step : DecayStep) : DecayOutcome :=
  (step.before.decay step.call.thresholds step.call.now).2

end DecayStep

/-! ## Single entries -/

namespace Activity

theorem rank_le_two (activity : Activity) : activity.rank ≤ 2 := by
  cases activity <;> decide

/-- A call that has demoted an entry twice does not demote it again. -/
theorem next_next_next
    (thresholds : Thresholds)
    (elapsed : UInt64)
    (activity : Activity) :
    ((activity.next thresholds elapsed).next thresholds elapsed).next thresholds elapsed =
      (activity.next thresholds elapsed).next thresholds elapsed := by
  cases activity with
  | active =>
      by_cases fades : thresholds.fadeAfter < elapsed
      · by_cases idles : thresholds.idleAfter < elapsed
        · simp only [next, if_pos fades, if_pos idles]
        · simp only [next, if_pos fades, if_neg idles]
      · simp only [next, if_neg fades]
  | fading =>
      by_cases idles : thresholds.idleAfter < elapsed
      · simp only [next, if_pos idles]
      · simp only [next, if_neg idles]
  | idle => rfl

/-- The rank to which equal calls demote an entry in the end, if it fades no later than it is
idle. -/
def finalRank (thresholds : Thresholds) (elapsed : UInt64) : Nat :=
  if elapsed ≤ thresholds.fadeAfter then 0
  else if elapsed ≤ thresholds.idleAfter then 1
  else 2

theorem finalRank_le_two (thresholds : Thresholds) (elapsed : UInt64) :
    finalRank thresholds elapsed ≤ 2 := by
  unfold finalRank
  split
  · decide
  · split <;> decide

/-- An entry is demoted while it has not reached its final rank. -/
theorem rank_next_eq_ite
    {thresholds : Thresholds}
    (ordered : thresholds.fadeAfter ≤ thresholds.idleAfter)
    (elapsed : UInt64)
    (activity : Activity) :
    (activity.next thresholds elapsed).rank =
      if activity.rank < finalRank thresholds elapsed then activity.rank + 1
      else activity.rank := by
  unfold finalRank
  rcases UInt64.lt_or_le thresholds.fadeAfter elapsed with fades | recent
  · rw [if_neg (UInt64.not_le.2 fades)]
    rcases UInt64.lt_or_le thresholds.idleAfter elapsed with idles | kept
    · rw [if_neg (UInt64.not_le.2 idles)]
      cases activity <;> simp [next, fades, idles]
    · rw [if_pos kept]
      cases activity <;> simp [next, fades, UInt64.not_lt.2 kept]
  · have kept : elapsed ≤ thresholds.idleAfter := UInt64.le_trans recent ordered
    rw [if_pos recent]
    cases activity <;> simp [next, UInt64.not_lt.2 recent, UInt64.not_lt.2 kept]

end Activity

namespace Recency

/-- The recency after a run of calls. -/
def decayedBy (calls : List DecayCall) (recency : Recency) : Recency :=
  calls.foldl (fun sofar call => sofar.decay call.thresholds call.now) recency

@[simp] theorem lastSeen_decayedBy (calls : List DecayCall) (recency : Recency) :
    (recency.decayedBy calls).lastSeen = recency.lastSeen := by
  induction calls generalizing recency with
  | nil => rfl
  | cons call calls inductionHypothesis =>
      exact inductionHypothesis (recency.decay call.thresholds call.now)

/-- An entry that begins to fade joins the fading ones, and one that becomes idle leaves
them. -/
theorem fading_add_faded
    (thresholds : Thresholds)
    (now : UInt64)
    (recency : Recency) :
    (if recency.activity = .fading then 1 else 0) + (recency.demotion thresholds now).faded =
      (if (recency.decay thresholds now).activity = .fading then 1 else 0) +
        (recency.demotion thresholds now).idled := by
  obtain ⟨firstSeen, lastSeen, activity⟩ := recency
  cases activity with
  | active =>
      by_cases fades : thresholds.fadeAfter < saturatingSub now lastSeen
      · simp only [demotion, decay, Activity.next, if_pos fades]
        rfl
      · simp only [demotion, decay, Activity.next, if_neg fades]
        rfl
  | fading =>
      by_cases idles : thresholds.idleAfter < saturatingSub now lastSeen
      · simp only [demotion, decay, Activity.next, if_pos idles]
        rfl
      · simp only [demotion, decay, Activity.next, if_neg idles]
        rfl
  | idle => rfl

/-- Ranks do not fall, and do not rise by more than one. -/
structure IsGradual (before after : Recency) : Prop where
  /-- The rank has not fallen. -/
  rank_le : before.activity.rank ≤ after.activity.rank
  /-- The rank has risen by at most one. -/
  rank_le_succ : after.activity.rank ≤ before.activity.rank + 1

theorem isGradual_decay (thresholds : Thresholds) (now : UInt64) (recency : Recency) :
    recency.IsGradual (recency.decay thresholds now) :=
  have bounds := Activity.rank_next_bounds thresholds (saturatingSub now recency.lastSeen)
    recency.activity
  ⟨bounds.1, bounds.2⟩

/-- After a call that has been made some times an entry has been demoted as often, unless it
has reached its final rank. -/
theorem min_finalRank_le
    {call : DecayCall}
    (ordered : call.thresholds.fadeAfter ≤ call.thresholds.idleAfter)
    (calls : List DecayCall)
    (recency : Recency) :
    min (Activity.finalRank call.thresholds (saturatingSub call.now recency.lastSeen))
        (recency.activity.rank + calls.count call) ≤
      (recency.decayedBy calls).activity.rank := by
  induction calls generalizing recency with
  | nil => exact Nat.min_le_right _ _
  | cons next calls inductionHypothesis =>
      have later := inductionHypothesis (recency.decay next.thresholds next.now)
      refine Nat.le_trans ?_ later
      have notFallen := (recency.isGradual_decay next.thresholds next.now).rank_le
      change min (Activity.finalRank _ (saturatingSub call.now recency.lastSeen)) _ ≤
        min (Activity.finalRank _ (saturatingSub call.now recency.lastSeen)) _
      rw [List.count_cons]
      by_cases same : next = call
      · have rank_eq : (recency.decay call.thresholds call.now).activity.rank = _ :=
          Activity.rank_next_eq_ite ordered (saturatingSub call.now recency.lastSeen)
            recency.activity
        rw [same, rank_eq, if_pos BEq.rfl]
        split <;> omega
      · rw [if_neg (by simpa using same)]
        omega

/-- A call that has been made twice does not demote an entry again. -/
theorem decay_decayedBy_of_count
    {call : DecayCall}
    (ordered : call.thresholds.fadeAfter ≤ call.thresholds.idleAfter)
    {calls : List DecayCall}
    (twice : 2 ≤ calls.count call)
    (recency : Recency) :
    (recency.decayedBy calls).decay call.thresholds call.now = recency.decayedBy calls := by
  have reached := min_finalRank_le ordered calls recency
  have final_le := Activity.finalRank_le_two call.thresholds
    (saturatingSub call.now recency.lastSeen)
  have same : (recency.decayedBy calls).activity.next call.thresholds
      (saturatingSub call.now (recency.decayedBy calls).lastSeen) =
        (recency.decayedBy calls).activity := by
    apply Activity.eq_of_rank_eq
    rw [Activity.rank_next_eq_ite ordered, lastSeen_decayedBy, if_neg]
    omega
  rw [decay, same]

/-- A call that was made twice in a row does not demote an entry again. -/
theorem decay_decayedBy_of_suffix
    {call : DecayCall}
    {calls : List DecayCall}
    (twice : [call, call] <:+ calls)
    (recency : Recency) :
    (recency.decayedBy calls).decay call.thresholds call.now = recency.decayedBy calls := by
  obtain ⟨earlier, rfl⟩ := twice
  rw [decayedBy, List.foldl_append]
  exact congrArg (Recency.mk _ _) (Activity.next_next_next call.thresholds _ _)

end Recency

/-! ## Whole graphs -/

/-- The node without its activity. -/
def Node.unlabelled (node : Node) : Node :=
  { node with activity := .active }

@[simp] theorem Node.id_unlabelled (node : Node) : node.unlabelled.id = node.id := rfl

/-- The edge without its activity. -/
def Edge.unlabelled (edge : Edge) : Edge :=
  { edge with activity := .active }

@[simp] theorem Edge.key_unlabelled (edge : Edge) : edge.unlabelled.key = edge.key := rfl

namespace Graph

/-- The graph without the activities of its entries. -/
def unlabelled (graph : Graph) : Graph :=
  { graph with
    nodes := graph.nodes.map Node.unlabelled Node.id_unlabelled
    edges := graph.edges.map Edge.unlabelled Edge.key_unlabelled }

/-- The graph after a run of calls. -/
def decayedBy (calls : List DecayCall) (graph : Graph) : Graph :=
  calls.foldl (fun sofar call => (sofar.decay call.thresholds call.now).1) graph

/-- The steps of a run of calls. -/
def decaySteps : Graph → List DecayCall → List DecayStep
  | _, [] => []
  | graph, call :: calls =>
    ⟨graph, call⟩ :: decaySteps (graph.decay call.thresholds call.now).1 calls

/-- The ranks of all entries together. -/
def rank (graph : Graph) : Nat :=
  sumOf (fun recency => recency.activity.rank) graph.recencies

/-- The number of fading entries. -/
def fadingCount (graph : Graph) : Nat :=
  graph.recencies.countP fun recency => recency.activity = .fading

theorem decayedBy_cons (call : DecayCall) (calls : List DecayCall) (graph : Graph) :
    graph.decayedBy (call :: calls) =
      (graph.decayed call.thresholds call.now).decayedBy calls := rfl

theorem decaySteps_cons (call : DecayCall) (calls : List DecayCall) (graph : Graph) :
    graph.decaySteps (call :: calls) =
      ⟨graph, call⟩ :: (graph.decayed call.thresholds call.now).decaySteps calls := rfl

theorem outcome_mk (call : DecayCall) (graph : Graph) :
    DecayStep.outcome ⟨graph, call⟩ = graph.demotions call.thresholds call.now := rfl

/-- What a run of calls owes to one who counts. -/
structure AccountsFor (graph : Graph) (calls : List DecayCall) : Prop where
  /-- No step lowers a rank or raises one by more than one. -/
  gradual : ∀ step ∈ graph.decaySteps calls,
    List.Forall₂ Recency.IsGradual step.before.recencies step.after.recencies
  /-- The steps have counted what the ranks have risen. -/
  counted : graph.rank + sumOf (fun step => step.outcome.count) (graph.decaySteps calls) =
    (graph.decayedBy calls).rank
  /-- They have counted at most two for each entry. -/
  bounded : sumOf (fun step => step.outcome.count) (graph.decaySteps calls) ≤
    2 * (graph.nodes.size + graph.edges.size)
  /-- As many steps at most have reported a change. -/
  reported : (graph.decaySteps calls).countP (fun step => step.outcome.changed) ≤
    2 * (graph.nodes.size + graph.edges.size)
  /-- Entries that began to fade have joined the fading ones, and those that became idle have
  left them. -/
  fading : graph.fadingCount + sumOf (fun step => step.outcome.faded) (graph.decaySteps calls) =
    (graph.decayedBy calls).fadingCount +
      sumOf (fun step => step.outcome.idled) (graph.decaySteps calls)
  /-- A step that reports no change leaves the graph as it is, and the other way round. -/
  silent_iff : ∀ step ∈ graph.decaySteps calls,
    step.outcome.changed = false ↔ step.after = step.before
  /-- A call that was made twice in a row changes nothing when it is made again. -/
  repeated : ∀ call, [call, call] <:+ calls →
    ((graph.decayedBy calls).decay call.thresholds call.now).1 = graph.decayedBy calls
  /-- With other calls in between, neither does one under which entries fade no later than
  they are idle. -/
  returned : ∀ call, call.thresholds.fadeAfter ≤ call.thresholds.idleAfter →
    2 ≤ calls.count call →
      ((graph.decayedBy calls).decay call.thresholds call.now).1 = graph.decayedBy calls
  /-- Nothing but activities has changed. -/
  kept : (graph.decayedBy calls).unlabelled = graph.unlabelled

/-! ### One step -/

section Step

variable (thresholds : Thresholds) (now : UInt64) (graph : Graph)

theorem rank_decayed :
    (graph.decayed thresholds now).rank =
      graph.rank + (graph.demotions thresholds now).count := by
  rw [count_demotions, rank, rank, recencies_decayed, sumOf_map, ← sumOf_add]
  apply sumOf_congr
  intro recency _
  exact recency.rank_decay thresholds now

theorem fadingCount_eq :
    graph.fadingCount =
      sumOf (fun recency => if recency.activity = .fading then 1 else 0) graph.recencies := by
  have counted := sumOf_ite (fun recency : Recency => decide (recency.activity = .fading)) 1
    graph.recencies
  simp only [decide_eq_true_eq] at counted
  rw [counted, Nat.one_mul, fadingCount]

theorem fadingCount_decayed :
    graph.fadingCount + (graph.demotions thresholds now).faded =
      (graph.decayed thresholds now).fadingCount + (graph.demotions thresholds now).idled := by
  rw [demotions_eq_sumOf DecayOutcome.faded rfl fun _ _ => rfl,
    demotions_eq_sumOf DecayOutcome.idled rfl fun _ _ => rfl, fadingCount_eq, fadingCount_eq,
    recencies_decayed, sumOf_map, ← sumOf_add, ← sumOf_add]
  apply sumOf_congr
  intro recency _
  exact recency.fading_add_faded thresholds now

theorem unlabelled_decayed : (graph.decayed thresholds now).unlabelled = graph.unlabelled := by
  rw [unlabelled, unlabelled, Graph.mk.injEq]
  refine ⟨?hosts, ?connections, rfl⟩
  case hosts =>
    apply Table.ext_toList
    rw [decayed, Table.toList_map, Table.toList_map, Table.toList_map, List.map_map]
    rfl
  case connections =>
    apply Table.ext_toList
    rw [decayed, Table.toList_map, Table.toList_map, Table.toList_map, List.map_map]
    rfl

theorem forall₂_isGradual :
    List.Forall₂ Recency.IsGradual graph.recencies (graph.decayed thresholds now).recencies := by
  rw [recencies_decayed, List.forall₂_map_right_iff, List.forall₂_same]
  intro recency _
  exact recency.isGradual_decay thresholds now

/-- A step reports no change exactly if it leaves the graph as it is. -/
theorem changed_eq_false_iff :
    (graph.demotions thresholds now).changed = false ↔ graph.decayed thresholds now = graph := by
  constructor
  · intro silent
    exact decayed_of_not_changed (by rw [silent]; exact Bool.false_ne_true)
  · intro same
    have rank_eq := graph.rank_decayed thresholds now
    rw [same] at rank_eq
    rw [← Bool.not_eq_true, DecayOutcome.changed_iff]
    omega

end Step

/-! ### Runs -/

section Run

variable (calls : List DecayCall) (graph : Graph)

theorem recencies_decayedBy :
    (graph.decayedBy calls).recencies = graph.recencies.map (Recency.decayedBy calls) := by
  induction calls generalizing graph with
  | nil => exact (List.map_id _).symm
  | cons call calls inductionHypothesis =>
      refine (inductionHypothesis (graph.decayed call.thresholds call.now)).trans ?_
      rw [recencies_decayed, List.map_map]
      rfl

/-- A step after a run changes nothing if it demotes no entry. -/
theorem decayed_decayedBy_eq_self
    {call : DecayCall}
    (rests : ∀ recency : Recency,
      (recency.decayedBy calls).decay call.thresholds call.now = recency.decayedBy calls) :
    ((graph.decayedBy calls).decay call.thresholds call.now).1 = graph.decayedBy calls := by
  apply decayed_eq_self
  rw [recencies_decayedBy]
  intro recency listed
  obtain ⟨earlier, _, rfl⟩ := List.mem_map.1 listed
  exact rests earlier

/-- What every step keeps in balance is in balance after a run. -/
theorem add_sumOf_eq_add_sumOf
    (level : Graph → Nat)
    (gained lost : DecayOutcome → Nat)
    (balanced : ∀ (thresholds : Thresholds) (now : UInt64) (graph : Graph),
      level graph + gained (graph.demotions thresholds now) =
        level (graph.decayed thresholds now) + lost (graph.demotions thresholds now)) :
    level graph + sumOf (fun step => gained step.outcome) (graph.decaySteps calls) =
      level (graph.decayedBy calls) +
        sumOf (fun step => lost step.outcome) (graph.decaySteps calls) := by
  induction calls generalizing graph with
  | nil => rfl
  | cons call calls inductionHypothesis =>
      have step := balanced call.thresholds call.now graph
      have later := inductionHypothesis (graph.decayed call.thresholds call.now)
      rw [decaySteps_cons, decayedBy_cons, sumOf_cons, sumOf_cons, outcome_mk]
      omega

theorem rank_add_sumOf_count :
    graph.rank + sumOf (fun step => step.outcome.count) (graph.decaySteps calls) =
      (graph.decayedBy calls).rank := by
  rw [add_sumOf_eq_add_sumOf calls graph rank DecayOutcome.count fun _ => 0,
    sumOf_eq_zero_iff.2, Nat.add_zero]
  · intro step _
    rfl
  · intro thresholds now before
    rw [rank_decayed, Nat.add_zero]

theorem fadingCount_add_sumOf_faded :
    graph.fadingCount + sumOf (fun step => step.outcome.faded) (graph.decaySteps calls) =
      (graph.decayedBy calls).fadingCount +
        sumOf (fun step => step.outcome.idled) (graph.decaySteps calls) :=
  add_sumOf_eq_add_sumOf calls graph fadingCount DecayOutcome.faded DecayOutcome.idled
    fadingCount_decayed

theorem unlabelled_decayedBy : (graph.decayedBy calls).unlabelled = graph.unlabelled := by
  induction calls generalizing graph with
  | nil => rfl
  | cons call calls inductionHypothesis =>
      exact (inductionHypothesis (graph.decayed call.thresholds call.now)).trans
        (unlabelled_decayed call.thresholds call.now graph)

end Run

theorem length_recencies (graph : Graph) :
    graph.recencies.length = graph.nodes.size + graph.edges.size := by
  rw [recencies, List.length_append, List.length_map, List.length_map, Table.length_toList,
    Table.length_toList]

/-- No entry rises by more than two ranks in a run. -/
theorem rank_decayedBy_le (calls : List DecayCall) (graph : Graph) :
    (graph.decayedBy calls).rank ≤ 2 * (graph.nodes.size + graph.edges.size) := by
  rw [← length_recencies, ← List.length_map (Recency.decayedBy calls), ← recencies_decayedBy]
  exact sumOf_le_mul_length fun recency _ => recency.activity.rank_le_two

/-- **Accounting for decay.** Whatever the graph, and whatever clocks and thresholds a run of
decay steps reads, the steps raise ranks one by one, count every rise once and change nothing
else, so only so many of them report a change. -/
theorem accountsFor_calls (graph : Graph) (calls : List DecayCall) :
    graph.AccountsFor calls := by
  have counted := graph.rank_add_sumOf_count calls
  have bounded : sumOf (fun step => step.outcome.count) (graph.decaySteps calls) ≤
      2 * (graph.nodes.size + graph.edges.size) := by
    have rank_le := graph.rank_decayedBy_le calls
    omega
  refine {
    gradual := ?gradual
    counted := counted
    bounded := bounded
    reported := ?reported
    fading := graph.fadingCount_add_sumOf_faded calls
    silent_iff := ?silent
    repeated := ?repeated
    returned := ?returned
    kept := graph.unlabelled_decayedBy calls }
  case gradual =>
    intro step _
    exact step.before.forall₂_isGradual step.call.thresholds step.call.now
  case reported =>
    refine Nat.le_trans ?_ bounded
    rw [← Nat.one_mul (List.countP _ _), ← sumOf_ite]
    apply sumOf_le_sumOf
    intro step _
    split
    · next changed => exact DecayOutcome.changed_iff.1 changed
    · exact Nat.zero_le _
  case silent =>
    intro step _
    exact step.before.changed_eq_false_iff step.call.thresholds step.call.now
  case repeated =>
    intro call twice
    exact graph.decayed_decayedBy_eq_self calls (Recency.decay_decayedBy_of_suffix twice)
  case returned =>
    intro call ordered twice
    exact graph.decayed_decayedBy_eq_self calls (Recency.decay_decayedBy_of_count ordered twice)

end Graph
end TrafficGraph
