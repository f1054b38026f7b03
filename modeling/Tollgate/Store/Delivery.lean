import Tollgate.Store.Traffic

/-!
# Delivery of traffic

Publishers send arrivals through one channel, and a recorder at its other end takes them out of it,
one at a time.  A publisher can be shared and can leave.  Once the last one has left and nothing
waits any more, the recorder is done.
-/

namespace Tollgate

universe u

/-- A channel as its two ends know it.  Sending is refused when the receiver is gone, and taking
finds nothing when nothing waits. -/
structure Channel (σ : Type u) where
  fresh : σ
  send? : σ → Arrival → Option σ
  take? : σ → Option (Arrival × σ)

/-- The publishers on a channel, by number, and the recorder with the traffic recorded so far. -/
structure Relay (σ : Type u) where
  publishers : List Nat
  state : σ
  traffic : Traffic
  recording : Bool

namespace Relay

/-- What a publisher or the recorder can do next. -/
inductive Move where
  /-- One more publisher on the same channel. -/
  | share (publisher copy : Nat)
  | leave (publisher : Nat)
  | publish (publisher : Nat) (arrival : Arrival)
  | receive
  deriving DecidableEq, Repr

variable {σ : Type u}

/-- One publisher on a fresh channel, and a recorder that starts from some traffic. -/
def start (channel : Channel σ) (traffic : Traffic) : Relay σ where
  publishers := [0]
  state := channel.fresh
  traffic := traffic
  recording := true

/-- The relay after a move, if it can be made.  What is sent to nobody is lost.  On an empty channel
the recorder waits as long as there are publishers, and ends when there are none. -/
def step? (channel : Channel σ) (relay : Relay σ) : Move → Option (Relay σ)
  | .share publisher copy =>
      if publisher ∈ relay.publishers ∧ copy ∉ relay.publishers then
        some { relay with publishers := copy :: relay.publishers }
      else none
  | .leave publisher =>
      if publisher ∈ relay.publishers then
        some { relay with publishers := relay.publishers.erase publisher }
      else none
  | .publish publisher arrival =>
      if publisher ∈ relay.publishers then
        some { relay with state := (channel.send? relay.state arrival).getD relay.state }
      else none
  | .receive =>
      if relay.recording then
        match channel.take? relay.state with
        | some (first, after) =>
            some { relay with
              state := after
              traffic := relay.traffic.record first.bucket first.time }
        | none =>
            if relay.publishers = [] then some { relay with recording := false } else none
      else none

/-- The relay after moves one after the other, if they can all be made. -/
def run? (channel : Channel σ) (relay : Relay σ) (moves : List Move) : Option (Relay σ) :=
  moves.foldlM (step? channel) relay

end Relay

/-- A queue of waiting arrivals as a channel. -/
def TrafficQueue.channel : Channel TrafficQueue where
  fresh := {}
  send? queue arrival := if queue.isOpen then some (queue.send arrival) else none
  take? queue :=
    match queue.pending with
    | [] => none
    | first :: rest => some (first, { queue with pending := rest })

end Tollgate
