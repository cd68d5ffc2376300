import TrafficGraph.Proofs.Session.Notification

/-!
# Subscribers of a session

A subscriber receives changes while the session goes on, as many at a time as it likes.
The changes of a run are those that its operations send, and the channel shows the newest
of them; so what a subscriber has received when nothing is left to receive ends with the
last change that was sent, even if earlier ones were lost to it.
-/

namespace TrafficGraph

/-- A subscriber with the changes that it has received. -/
structure Subscriber where
  /-- The receiver of the subscriber. -/
  receiver : Receiver
  /-- The received changes, oldest first. -/
  received : List Change

namespace Subscriber

/-- Receives up to so many of the pending changes, past those that were lost. -/
def receive (count : Nat) (changes : Channel Change) (subscriber : Subscriber) : Subscriber :=
  let delivery := changes.pending subscriber.receiver
  { receiver :=
      ⟨subscriber.receiver.passed + delivery.lost + min count delivery.messages.length⟩
    received := subscriber.received ++ delivery.messages.take count }

/-- Receives all pending changes. -/
def drain (changes : Channel Change) (subscriber : Subscriber) : Subscriber :=
  subscriber.receive (changes.pending subscriber.receiver).messages.length changes

/-- A subscriber has received all changes but those that it may still receive: its place
lies among the changes sent since it subscribed, and at their end the last one that it
has received is the last one sent. -/
structure Follows (history sent : List Change) (subscriber : Subscriber) : Prop where
  /-- The changes of the time before are passed. -/
  length_le : history.length ≤ subscriber.receiver.passed
  /-- The place lies among all changes. -/
  passed_le : subscriber.receiver.passed ≤ (history ++ sent).length
  /-- If nothing is left to receive, then the last change sent was received last. -/
  getLast?_eq : subscriber.receiver.passed = (history ++ sent).length →
    subscriber.received.getLast? = sent.getLast?

namespace Follows

variable {history sent : List Change} {changes : Channel Change} {subscriber : Subscriber}

theorem subscribe
    (shows : Window.Shows Channel.capacity history changes) :
    Follows history [] ⟨changes.subscribe, []⟩ := by
  have passed_eq : changes.subscribe.passed = history.length := shows.total_eq
  refine ⟨Nat.le_of_eq passed_eq.symm, ?_, fun _ => rfl⟩
  rw [List.append_nil]
  exact Nat.le_of_eq passed_eq

/-- One more change is left to receive. -/
theorem send
    (follows : subscriber.Follows history sent)
    (change : Change) :
    subscriber.Follows history (sent ++ [change]) := by
  have length_eq : (history ++ (sent ++ [change])).length = (history ++ sent).length + 1 := by
    rw [← List.append_assoc, List.length_append, List.length_singleton]
  have passed_le := follows.passed_le
  refine ⟨follows.length_le, ?_, ?_⟩
  · omega
  · intro passed_eq
    omega

/-- The place behind what was lost and what is received now. -/
theorem passed_receive
    (subscriber : Subscriber)
    (shows : Window.Shows Channel.capacity (history ++ sent) changes)
    (count : Nat) :
    (subscriber.receive count changes).receiver.passed =
      max subscriber.receiver.passed changes.dropped +
        min count ((history ++ sent).length - max subscriber.receiver.passed changes.dropped) := by
  simp only [receive, Channel.pending, shows.itemsSince_eq_drop_max, List.length_drop]
  omega

/-- A subscriber that receives changes goes on following them: it skips lost ones only
when there are newer ones to receive. -/
theorem receive
    (shows : Window.Shows Channel.capacity (history ++ sent) changes)
    (follows : subscriber.Follows history sent)
    (count : Nat) :
    (subscriber.receive count changes).Follows history sent := by
  have passed_eq := passed_receive subscriber shows count
  have dropped_le := shows.dropped_le
  have dropped_eq := shows.dropped_eq
  have positive : 0 < Channel.capacity := by decide
  generalize reached_eq : max subscriber.receiver.passed changes.dropped = reached at passed_eq
  have length_le := follows.length_le
  have passed_le := follows.passed_le
  have length_eq : (history ++ sent).length = history.length + sent.length :=
    List.length_append
  refine ⟨by omega, by omega, ?_⟩
  intro finished
  have all : (history ++ sent).length - reached ≤ count := by omega
  have received_eq : (subscriber.receive count changes).received =
      subscriber.received ++ (history ++ sent).drop reached := by
    simp only [Subscriber.receive, Channel.pending, shows.itemsSince_eq_drop_max, reached_eq]
    rw [List.take_of_length_le (by rw [List.length_drop]; exact all)]
  rw [received_eq, List.getLast?_append, List.getLast?_drop]
  split
  · have exhausted : subscriber.receiver.passed = (history ++ sent).length := by omega
    rw [Option.none_or]
    exact follows.getLast?_eq exhausted
  · have someSent : sent ≠ [] := by
      rw [← List.length_pos_iff]
      omega
    rw [List.getLast?_append, List.getLast?_eq_some_getLast someSent, Option.some_or,
      Option.some_or]

/-- After all pending changes were received the last one sent was received last. -/
theorem getLast?_drain
    (shows : Window.Shows Channel.capacity (history ++ sent) changes)
    (follows : subscriber.Follows history sent) :
    (subscriber.drain changes).received.getLast? = sent.getLast? := by
  apply (follows.receive shows _).getLast?_eq
  rw [passed_receive subscriber shows]
  have dropped_le := shows.dropped_le
  have passed_le := follows.passed_le
  simp only [Channel.pending, shows.itemsSince_eq_drop_max, List.length_drop]
  omega

end Follows
end Subscriber

namespace Session

/-- What one finds who subscribed just before an operation. -/
def broadcast (operation : Operation) (session : Session) : Delivery Change :=
  (session.perform operation).changes.pending session.changes.subscribe

theorem broadcast_of_rests
    {history : List Change}
    {session : Session}
    (shows : Window.Shows Channel.capacity history session.changes)
    {operation : Operation}
    (rests : session.Rests operation) :
    session.broadcast operation = ⟨0, []⟩ := by
  have total_eq := shows.total_eq
  have dropped_le := shows.dropped_le
  simp only [broadcast, rests.changes_eq, Channel.pending, Channel.subscribe,
    shows.itemsSince_eq_drop_max, Delivery.mk.injEq, List.drop_eq_nil_iff]
  omega

theorem broadcast_of_speaks
    {history : List Change}
    {session : Session}
    (shows : Window.Shows Channel.capacity history session.changes)
    {operation : Operation}
    (speaks : session.Speaks operation) :
    session.broadcast operation =
      ⟨0, [(session.perform operation).change operation.clock operation.kind]⟩ := by
  rw [broadcast, speaks.changes_eq]
  generalize (session.perform operation).change operation.clock operation.kind = change
  have later : Window.Shows Channel.capacity (history ++ [change])
      (Channel.send change session.changes) := shows.push change
  have kept : (Channel.send change session.changes).dropped ≤ history.length := by
    rw [later.dropped_eq, List.length_append, List.length_singleton, Channel.capacity]
    omega
  rw [Channel.pending, Channel.subscribe, shows.total_eq, later.itemsSince_eq_drop_max,
    Nat.max_eq_left kept, List.drop_left, Nat.sub_eq_zero_of_le kept]

/-- What an operation broadcasts. -/
structure Notifies (operation : Operation) (session : Session) : Prop where
  /-- Nothing is lost to one who has just subscribed. -/
  lost_eq : (session.broadcast operation).lost = 0
  /-- No operation sends two changes. -/
  length_le : (session.broadcast operation).messages.length ≤ 1
  /-- An operation that changes the graph sends one. -/
  length_eq : (session.perform operation).graph ≠ session.graph →
    (session.broadcast operation).messages.length = 1
  /-- A change tells how the session is after the operation. -/
  change_eq : ∀ change ∈ (session.broadcast operation).messages,
    change = (session.perform operation).change operation.clock operation.kind
  /-- Exactly the quiet operations send nothing. -/
  silent_iff : (session.broadcast operation).messages = [] ↔ session.IsQuiet operation

theorem notifies
    {history : List Change}
    {session : Session}
    (shows : Window.Shows Channel.capacity history session.changes)
    (operation : Operation) :
    session.Notifies operation := by
  rcases session.rests_or_speaks operation with rests | speaks
  · have broadcast_eq := broadcast_of_rests shows rests
    refine ⟨?_, ?_, fun differs => absurd rests.graph_eq differs, ?_, ?_⟩
    all_goals rw [broadcast_eq]
    · exact Nat.zero_le 1
    · intro change sent
      cases sent
    · exact iff_of_true rfl rests.quiet
  · have broadcast_eq := broadcast_of_speaks shows speaks
    refine ⟨?_, ?_, fun _ => ?_, ?_, ?_⟩
    all_goals rw [broadcast_eq]
    · exact Nat.le_refl 1
    · rfl
    · intro change sent
      exact List.mem_singleton.1 sent
    · exact iff_of_false (List.cons_ne_nil _ _) speaks.loud

/-- The changes sent since a session was subscribed to, behind those of the time before. -/
structure Reports (session subscribed : Session) (history sent : List Change) : Prop where
  /-- The channel shows the newest changes. -/
  shows : Window.Shows Channel.capacity (history ++ sent) session.changes
  /-- The last change states how the session is. -/
  states : ∀ change, sent.getLast? = some change → change.States session
  /-- As long as none was sent the graph is what it was. -/
  graph_eq : sent = [] → session.graph = subscribed.graph

namespace Reports

variable {subscribed session : Session} {history sent : List Change} {operation : Operation}

theorem rest
    (reports : session.Reports subscribed history sent)
    (rests : session.Rests operation) :
    (session.perform operation).Reports subscribed history sent := by
  refine ⟨?_, ?_, ?_⟩
  · rw [rests.changes_eq]
    exact reports.shows
  · intro change last
    exact (reports.states change last).of_graph_eq rests.graph_eq
  · intro noneSent
    exact rests.graph_eq.trans (reports.graph_eq noneSent)

theorem speak
    (reports : session.Reports subscribed history sent)
    (speaks : session.Speaks operation) :
    (session.perform operation).Reports subscribed history
      (sent ++ [(session.perform operation).change operation.clock operation.kind]) := by
  refine ⟨?_, ?_, ?_⟩
  · rw [speaks.changes_eq, ← List.append_assoc]
    exact reports.shows.push _
  · intro change last
    rw [List.getLast?_append, List.getLast?_singleton, Option.some_or, Option.some.injEq] at last
    rw [← last]
    exact states_change _ _ _
  · intro noneSent
    exact absurd noneSent (List.append_ne_nil_of_right_ne_nil sent (List.cons_ne_nil _ _))

end Reports

/-- The channel of every session shows the changes of a history. -/
theorem exists_shows_after
    {history : List Change}
    {session : Session}
    (shows : Window.Shows Channel.capacity history session.changes)
    (operations : List Operation) :
    ∃ later, Window.Shows Channel.capacity later (session.after operations).changes := by
  induction operations generalizing history session with
  | nil => exact ⟨history, shows⟩
  | cons operation operations inductionHypothesis =>
      rcases session.rests_or_speaks operation with rests | speaks
      · exact inductionHypothesis (rests.changes_eq ▸ shows)
      · have pushed := shows.push
          ((session.perform operation).change operation.clock operation.kind)
        rw [← Channel.send, ← speaks.changes_eq] at pushed
        exact inductionHypothesis pushed

end Session

/-- A session with one of its subscribers. -/
structure Audience where
  /-- The session. -/
  session : Session
  /-- The subscriber. -/
  subscriber : Subscriber

namespace Audience

/-- What happens to a session and its subscriber. -/
inductive Event
  /-- Something is done with the session. -/
  | perform (operation : Session.Operation)
  /-- The subscriber receives up to so many changes. -/
  | receive (count : Nat)

/-- Someone subscribes to the changes from now on. -/
def subscribe (session : Session) : Audience :=
  ⟨session, ⟨session.changes.subscribe, []⟩⟩

/-- The session and its subscriber after an event. -/
def act (audience : Audience) : Event → Audience
  | .perform operation => { audience with session := audience.session.perform operation }
  | .receive count =>
    { audience with subscriber := audience.subscriber.receive count audience.session.changes }

/-- The session and its subscriber after a sequence of events. -/
def after (events : List Event) (audience : Audience) : Audience :=
  events.foldl act audience

/-- The changes that the subscriber has received when nothing is left to receive. -/
def drained (audience : Audience) : List Change :=
  (audience.subscriber.drain audience.session.changes).received

/-- What a subscriber can tell of a session. -/
structure Informed (subscribed : Session) (audience : Audience) : Prop where
  /-- The last change received states how the session is. -/
  states : ∀ change, audience.drained.getLast? = some change → change.States audience.session
  /-- As long as none is received the graph is what it was. -/
  graph_eq : audience.drained = [] → audience.session.graph = subscribed.graph

/-- The session reports what the subscriber follows. -/
def InTouch (subscribed : Session) (history : List Change) (audience : Audience) : Prop :=
  ∃ sent, audience.session.Reports subscribed history sent ∧
    audience.subscriber.Follows history sent

theorem InTouch.act
    {subscribed : Session}
    {history : List Change}
    {audience : Audience}
    (inTouch : audience.InTouch subscribed history)
    (event : Event) :
    (audience.act event).InTouch subscribed history := by
  obtain ⟨sent, reports, follows⟩ := inTouch
  cases event with
  | perform operation =>
      rcases audience.session.rests_or_speaks operation with rests | speaks
      · exact ⟨sent, reports.rest rests, follows⟩
      · exact ⟨_, reports.speak speaks, follows.send _⟩
  | receive count => exact ⟨sent, reports, follows.receive reports.shows count⟩

theorem InTouch.after
    {subscribed : Session}
    {history : List Change}
    {audience : Audience}
    (inTouch : audience.InTouch subscribed history)
    (events : List Event) :
    (audience.after events).InTouch subscribed history := by
  induction events generalizing audience with
  | nil => exact inTouch
  | cons event events inductionHypothesis => exact inductionHypothesis (inTouch.act event)

theorem InTouch.informed
    {subscribed : Session}
    {history : List Change}
    {audience : Audience}
    (inTouch : audience.InTouch subscribed history) :
    audience.Informed subscribed := by
  obtain ⟨sent, reports, follows⟩ := inTouch
  have last_eq : audience.drained.getLast? = sent.getLast? := follows.getLast?_drain reports.shows
  refine ⟨?_, ?_⟩
  · intro change last
    exact reports.states change (last_eq.symm.trans last)
  · intro noneReceived
    rw [noneReceived, List.getLast?_nil, eq_comm, List.getLast?_eq_none_iff] at last_eq
    exact reports.graph_eq last_eq

/-- **Notifications.** Whatever was done with a new session, each further operation
broadcasts at most one change, which tells how the session is after it, and one if it
changes the graph; and whoever subscribes is informed of the session, whatever is done
with it and however few changes are received in between. -/
theorem informed_after
    (viewId : String)
    (options : GraphOptions)
    (operations : List Session.Operation) :
    (∀ operation, ((Session.create viewId options).after operations).Notifies operation) ∧
      ∀ events, ((subscribe ((Session.create viewId options).after operations)).after
        events).Informed ((Session.create viewId options).after operations) := by
  have created : Window.Shows Channel.capacity [] (Session.create viewId options).changes :=
    Window.shows_empty Channel.capacity
  obtain ⟨history, shows⟩ := Session.exists_shows_after created operations
  refine ⟨Session.notifies shows, ?_⟩
  intro events
  have reports : ((Session.create viewId options).after operations).Reports
      ((Session.create viewId options).after operations) history [] :=
    ⟨by rw [List.append_nil]; exact shows, by simp, fun _ => rfl⟩
  have inTouch : (subscribe ((Session.create viewId options).after operations)).InTouch
      ((Session.create viewId options).after operations) history :=
    ⟨[], reports, Subscriber.Follows.subscribe shows⟩
  exact (inTouch.after events).informed

end Audience
end TrafficGraph
