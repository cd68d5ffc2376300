import TrafficGraph.Window

/-!
# Broadcast channels

A channel keeps the newest messages up to its capacity.  Each receiver knows how
many messages it has passed; one that falls behind the kept messages learns how
many it lost and goes on with the oldest that is left.
-/

namespace TrafficGraph

/-- A channel with the newest of the messages that were sent. -/
abbrev Channel (α : Type) := Window α

/-- The number of messages that one receiver has passed. -/
structure Receiver where
  /-- Messages received or lost. -/
  passed : Nat
  deriving DecidableEq

/-- What a receiver finds when it asks for all pending messages. -/
structure Delivery (α : Type) where
  /-- The number of the oldest pending messages that were lost. -/
  lost : Nat
  /-- The other pending messages, oldest first. -/
  messages : List α

namespace Channel

variable {α : Type}

/-- The number of messages that a channel keeps. -/
def capacity : Nat := 256

/-- Sends a message. -/
def send (message : α) (channel : Channel α) : Channel α :=
  channel.push capacity message

/-- A receiver of the messages that are sent from now on. -/
def subscribe (channel : Channel α) : Receiver :=
  ⟨channel.total⟩

/-- All pending messages of a receiver. -/
def pending (receiver : Receiver) (channel : Channel α) : Delivery α where
  lost := channel.dropped - receiver.passed
  messages := channel.itemsSince receiver.passed

end Channel
end TrafficGraph
