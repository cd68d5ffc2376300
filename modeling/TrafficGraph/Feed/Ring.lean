import TrafficGraph.Window
import TrafficGraph.Session.Batch
import TrafficGraph.Text.Numeral

/-!
# The capture ring

The ring holds the newest captured records.  Each consumer has a cursor, the
number of records that were pushed before its last batch was cut.  A consumer
gets the records since then, or all that the ring holds if some of those are
gone already.  The number of records ever pushed is the version of a batch.
-/

namespace TrafficGraph

/-- The newest captured records. -/
structure Ring where
  /-- The number of records that the ring can hold. -/
  capacity : Nat
  /-- The ring can hold a record. -/
  capacity_pos : 0 < capacity
  /-- The records. -/
  window : Window Record

/-- Why a feed cannot be set up. -/
inductive FeedError
  /-- A ring of this capacity holds nothing. -/
  | capacity (number : Nat)
  deriving DecidableEq

/-- The wording of an error. -/
def FeedError.message : FeedError → String
  | .capacity number => "invalid ring capacity: " ++ String.ofList (Text.decimal number)

/-- The place of one consumer in the history of a ring. -/
structure Cursor where
  /-- The number of records pushed before the last batch was cut. -/
  delivered : Nat
  deriving DecidableEq

/-- The cursor of a consumer that was given nothing. -/
def Cursor.start : Cursor := ⟨0⟩

namespace Ring

/-- An empty ring, if it can hold a record. -/
def create? (capacity : Nat) : Except FeedError Ring :=
  if positive : 0 < capacity then .ok ⟨capacity, positive, .empty⟩
  else .error (.capacity capacity)

/-- Pushes a record and lets go of the oldest one if the ring is full. -/
def push (record : Record) (ring : Ring) : Ring :=
  { ring with window := ring.window.push ring.capacity record }

/-- The number of records that the ring holds. -/
def size (ring : Ring) : Nat :=
  ring.window.size

/-- The number of records that were ever pushed. -/
def total (ring : Ring) : Nat :=
  ring.window.total

/-- The newest record. -/
def latest? (ring : Ring) : Option Record :=
  ring.window.latest?

/-- The version of a batch that is cut now. -/
def version (ring : Ring) : Int64 :=
  Int64.ofNat ring.total

/-- The cursor of a consumer that has just been given a batch. -/
def head (ring : Ring) : Cursor :=
  ⟨ring.total⟩

/-- All records that the ring holds. -/
def fullWindow (ring : Ring) : Batch where
  version := ring.version
  mode := .fullWindow
  events := ring.window.items

/-- The next batch for a consumer, if it was not given everything. -/
def poll? (cursor : Cursor) (ring : Ring) : Option Batch :=
  if ring.total ≤ cursor.delivered then none
  else if cursor.delivered < ring.window.dropped then some ring.fullWindow
  else some {
    version := ring.version
    mode := .incremental
    events := ring.window.itemsSince cursor.delivered }

end Ring
end TrafficGraph
