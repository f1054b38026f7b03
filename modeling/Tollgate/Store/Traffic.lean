import Tollgate.Resource.Binding
import Tollgate.Spaces
import Tollgate.Timestamp

/-!
# Recorded traffic

Accepted requests are recorded per route and credential, in the order in which they arrive.  A
rate counts the requests of a sliding window by bisection, so a bucket is expected to be in order
of time.
-/

namespace Tollgate

/-- The start of a window lies before the first representable instant. -/
inductive ClockFault where
  | underflow
  deriving DecidableEq, Repr

namespace ClockFault

/-- The text of the fault. -/
def message : ClockFault → String
  | underflow => "`DateTime - TimeDelta` overflowed"

end ClockFault

/-- What traffic is counted by: a route and the name of a credential. -/
structure Bucket where
  route : ResourceName
  credential : String
  deriving DecidableEq, Repr

/-- Narrow `size` candidates from `base` on to the first index that `before` does not hold of,
given that it holds of a first stretch of the indices only. -/
def bisect (before : Nat → Bool) : (fuel base size : Nat) → Nat
  | 0, base, _ => base
  | fuel + 1, base, size =>
      if size = 0 then base
      else if size = 1 then if before base then base + 1 else base
      else
        let half := size / 2
        bisect before fuel (if before (base + half) then base + half else base) (size - half)

/-- Recorded instants on three levels: by namespace, by the name of the route there and by
credential.  Each level comes with the first instant below it. -/
structure Buckets where
  routes : Spaces (Dict String (List Instant))

namespace Buckets

/-- No namespace. -/
def empty : Buckets :=
  ⟨.empty⟩

/-- Whether there is no namespace. -/
def isEmpty (buckets : Buckets) : Bool :=
  buckets.routes.isEmpty

/-- The instants of a bucket. -/
def get? (buckets : Buckets) (bucket : Bucket) : Option (List Instant) :=
  (buckets.routes.get? bucket.route).bind (·.get? bucket.credential)

/-- Put the instants of a bucket in place of those that stand there. -/
def insert (buckets : Buckets) (bucket : Bucket) (instants : List Instant) : Buckets :=
  let credentials := (buckets.routes.get? bucket.route).getD .empty
  ⟨buckets.routes.insert bucket.route (credentials.insert bucket.credential instants)⟩

end Buckets

/-- The recorded traffic of a gateway. -/
structure Traffic where
  buckets : Buckets

namespace Traffic

/-- No traffic. -/
def empty : Traffic :=
  ⟨.empty⟩

instance : Inhabited Traffic :=
  ⟨empty⟩

/-- The instants recorded in a bucket. -/
def instants (traffic : Traffic) (bucket : Bucket) : List Instant :=
  (traffic.buckets.get? bucket).getD []

/-- Record one request. -/
def record (traffic : Traffic) (bucket : Bucket) (time : Instant) : Traffic :=
  ⟨traffic.buckets.insert bucket (traffic.instants bucket ++ [time])⟩

/-- The number of requests recorded in a bucket. -/
def volume (traffic : Traffic) (bucket : Bucket) : Nat :=
  (traffic.instants bucket).length

/-- How many of the instants of a bucket in order of time lie after a cutoff. -/
def volumeAfter (cutoff : Instant) (instants : List Instant) : Nat :=
  let before (index : Nat) : Bool :=
    match instants[index]? with
    | some time => time ≤ cutoff
    | none => false
  instants.length - bisect before instants.length 0 instants.length

/-- Whether a rate is exhausted.  An amount below one and a bucket without traffic never are;
otherwise the requests within one unit before `now`, or all of them without a unit, are counted. -/
def violates (traffic : Traffic) (rate : Rate) (bucket : Bucket) (now : Instant) :
    Except ClockFault Bool :=
  if rate.amount < 1 then .ok false
  else
    match traffic.buckets.get? bucket with
    | none => .ok false
    | some instants =>
        match rate.unit with
        | none => .ok (rate.amount.toInt ≤ instants.length)
        | some unit =>
            let cutoff := now - unit.nanos
            if cutoff < Instant.earliest then .error .underflow
            else .ok (rate.amount.toInt ≤ volumeAfter cutoff instants)

/-- The same check with the rate that a binding's first entry for the credential gives; without an
entry or a rate nothing is exhausted. -/
def violatesBinding (traffic : Traffic) (route : ResourceName) (binding : Binding)
    (credential : String) (now : Instant) : Except ClockFault Bool :=
  match (binding.permission? credential).bind (·.rate) with
  | none => .ok false
  | some rate => traffic.violates rate ⟨route, credential⟩ now

/-- Whether nothing was ever recorded. -/
def isEmpty (traffic : Traffic) : Bool :=
  traffic.buckets.isEmpty

end Traffic

/-- A request on its way into the record. -/
structure Arrival where
  bucket : Bucket
  time : Instant
  deriving DecidableEq, Repr

/-- Requests wait in a queue until they are recorded, in the order in which they were sent.  A
closed queue loses what is sent to it. -/
structure TrafficQueue where
  pending : List Arrival := []
  isOpen : Bool := true
  deriving Repr

namespace TrafficQueue

/-- Send a request to the queue. -/
def send (queue : TrafficQueue) (arrival : Arrival) : TrafficQueue :=
  if queue.isOpen then { queue with pending := queue.pending ++ [arrival] } else queue

/-- Record the request that has waited longest. -/
def step (queue : TrafficQueue) (traffic : Traffic) : TrafficQueue × Traffic :=
  match queue.pending with
  | [] => (queue, traffic)
  | first :: rest => ({ queue with pending := rest }, traffic.record first.bucket first.time)

/-- Record all waiting requests. -/
def drain (queue : TrafficQueue) (traffic : Traffic) : Traffic :=
  queue.pending.foldl (fun traffic arrival => traffic.record arrival.bucket arrival.time) traffic

end TrafficQueue

end Tollgate
