import Tollgate.Proofs.Store.Recorded
import Tollgate.Store.Delivery

/-!
# Delivery in order

Whatever the publishers and the recorder do in turn, what was sent is recorded already or still
waits, in the order in which it was sent.  So a recorder that has caught up has recorded what was
sent as if it had been recorded at once, and since a bucket sees its own arrivals alone, only the
order within each bucket shows.  Where every bucket has a publisher of its own, that order is the
publisher's, and the schedule does not show at all.
-/

namespace Tollgate

universe u

namespace Traffic

/-- What a bucket holds comes from its own arrivals. -/
theorem get?_recordAll_filter (traffic : Traffic) (arrivals : List Arrival) (bucket : Bucket) :
    (traffic.recordAll arrivals).buckets.get? bucket =
      (traffic.recordAll (arrivals.filter (·.bucket = bucket))).buckets.get? bucket := by
  induction arrivals using List.reverseRecOn with
  | nil => rfl
  | append_singleton arrivals last ih =>
      have shared : (traffic.recordAll arrivals).instants bucket =
          (traffic.recordAll (arrivals.filter (·.bucket = bucket))).instants bucket := by
        rw [instants, instants, ih]
      rw [recordAll_concat, List.filter_append, add, record, Buckets.get?_insert]
      by_cases here : bucket = last.bucket
      · subst here
        rw [if_pos rfl, List.filter_cons_of_pos (by simp), List.filter_nil, recordAll_concat, add,
          record, Buckets.get?_insert, if_pos rfl, shared]
      · rw [if_neg here, List.filter_cons_of_neg (by simpa using Ne.symm here), List.filter_nil,
          List.append_nil, ih]

/-- The order of arrivals in different buckets does not show. -/
theorem get?_recordAll_congr (traffic : Traffic) {arrivals others : List Arrival} {bucket : Bucket}
    (same : others.filter (·.bucket = bucket) = arrivals.filter (·.bucket = bucket)) :
    (traffic.recordAll others).buckets.get? bucket =
      (traffic.recordAll arrivals).buckets.get? bucket := by
  rw [get?_recordAll_filter, same, ← get?_recordAll_filter]

/-- No arrival is lost, and none is counted twice. -/
theorem volume_recordAll (traffic : Traffic) (arrivals : List Arrival) (bucket : Bucket) :
    (traffic.recordAll arrivals).volume bucket =
      traffic.volume bucket + arrivals.countP (·.bucket = bucket) := by
  rw [volume, instants_recordAll, List.length_append, Manifest.timesIn, List.length_map,
    ← List.countP_eq_length_filter, volume]

end Traffic

/-- A channel keeps what is sent through it, first in, first out, as long as its receiver lives;
`holds` says of a state of the channel that it does and what waits. -/
structure Channel.Reliable {σ : Type u} (channel : Channel σ) (holds : σ → List Arrival → Prop) :
    Prop where
  fresh : holds channel.fresh []
  send : ∀ {state waiting}, holds state waiting → ∀ arrival,
    ∃ after, channel.send? state arrival = some after ∧ holds after (waiting ++ [arrival])
  take_nil : ∀ {state}, holds state [] → channel.take? state = none
  take_cons : ∀ {state first rest}, holds state (first :: rest) →
    ∃ after, channel.take? state = some (first, after) ∧ holds after rest

namespace TrafficQueue

/-- An open queue is such a channel. -/
theorem reliable :
    channel.Reliable fun queue waiting => queue.isOpen = true ∧ queue.pending = waiting where
  fresh := ⟨rfl, rfl⟩
  send := by
    rintro queue waiting ⟨opened, pending⟩ arrival
    refine ⟨queue.send arrival, by simp only [channel, opened, if_true], ?_, ?_⟩
    · rw [send, if_pos opened]
      exact opened
    · rw [send, if_pos opened, pending]
  take_nil := by
    rintro queue ⟨_, pending⟩
    simp only [channel, pending]
  take_cons := by
    rintro queue first rest ⟨opened, pending⟩
    exact ⟨{ queue with pending := rest }, by simp only [channel, pending], opened, rfl⟩

/-- A step of the queue records what is taken. -/
theorem step_eq (queue : TrafficQueue) (traffic : Traffic) :
    queue.step traffic =
      match channel.take? queue with
      | none => (queue, traffic)
      | some (first, after) => (after, traffic.record first.bucket first.time) := by
  cases pending : queue.pending <;> simp only [step, channel, pending]

theorem drain_eq (queue : TrafficQueue) (traffic : Traffic) :
    queue.drain traffic = traffic.recordAll queue.pending :=
  rfl

end TrafficQueue

namespace Relay

/-- The arrival that a move sends. -/
def Move.sent? : Move → Option Arrival
  | .publish _ arrival => some arrival
  | _ => none

/-- What moves one after the other send, in order. -/
def sent (moves : List Move) : List Arrival :=
  moves.filterMap Move.sent?

/-- Some arrivals are recorded and others wait in the channel.  The recorder is at work as long as
there are publishers or something waits. -/
structure Accounts {σ : Type u} (holds : σ → List Arrival → Prop) (traffic : Traffic)
    (recorded waiting : List Arrival) (relay : Relay σ) : Prop where
  waits : holds relay.state waiting
  records : relay.traffic = traffic.recordAll recorded
  busy : relay.publishers ≠ [] ∨ waiting ≠ [] → relay.recording = true

variable {σ : Type u} {channel : Channel σ} {holds : σ → List Arrival → Prop}
  {traffic : Traffic} {recorded waiting : List Arrival} {relay next : Relay σ}

theorem run?_concat (relay : Relay σ) (channel : Channel σ) (moves : List Move) (last : Move) :
    relay.run? channel (moves ++ [last]) =
      (relay.run? channel moves).bind (·.step? channel last) := by
  rw [run?, List.foldlM_append, run?, Option.bind_eq_bind]
  congr 1
  funext middle
  rw [List.foldlM_cons, Option.bind_eq_bind]
  exact Option.bind_fun_some _

theorem accounts_start (reliable : channel.Reliable holds) (traffic : Traffic) :
    (start channel traffic).Accounts holds traffic [] [] where
  waits := reliable.fresh
  records := rfl
  busy _ := rfl

/-- The recorder takes the arrival that has waited longest. -/
theorem Accounts.receive (reliable : channel.Reliable holds) {first : Arrival}
    (accounts : relay.Accounts holds traffic recorded (first :: waiting)) :
    ∃ next, relay.step? channel .receive = some next ∧
      next.Accounts holds traffic (recorded ++ [first]) waiting ∧
      next.publishers = relay.publishers := by
  obtain ⟨after, taken, waits⟩ := reliable.take_cons accounts.waits
  have recording := accounts.busy (.inr (List.cons_ne_nil first waiting))
  refine ⟨{ relay with
      state := after
      traffic := relay.traffic.record first.bucket first.time }, ?_, ⟨waits, ?_, ?_⟩, rfl⟩
  · simp only [step?, recording, taken, if_true]
  · rw [Traffic.recordAll_concat, ← accounts.records]
    rfl
  · exact fun _ => recording

/-- On an empty channel without publishers the recorder ends. -/
theorem step?_receive_of_idle (reliable : channel.Reliable holds)
    (accounts : relay.Accounts holds traffic recorded []) :
    relay.step? channel .receive =
      if relay.recording ∧ relay.publishers = [] then some { relay with recording := false }
      else none := by
  rw [step?, reliable.take_nil accounts.waits, ite_and]

/-- A move sends an arrival to the end of what waits, or records the first that waits, or neither;
nothing is lost. -/
theorem Accounts.step (reliable : channel.Reliable holds)
    (accounts : relay.Accounts holds traffic recorded waiting) {move : Move}
    (stepped : relay.step? channel move = some next) :
    ∃ recordedNext waitingNext, next.Accounts holds traffic recordedNext waitingNext ∧
      recordedNext ++ waitingNext = recorded ++ waiting ++ move.sent?.toList := by
  rcases accounts with ⟨waits, records, busy⟩
  cases move with
  | share publisher copy =>
      obtain ⟨⟨member, _⟩, same⟩ := Option.ite_none_right_eq_some.mp stepped
      cases same
      refine ⟨recorded, waiting, ⟨waits, records, fun _ => ?_⟩, (List.append_nil _).symm⟩
      exact busy (.inl (List.ne_nil_of_mem member))
  | leave publisher =>
      obtain ⟨member, same⟩ := Option.ite_none_right_eq_some.mp stepped
      cases same
      refine ⟨recorded, waiting, ⟨waits, records, fun _ => ?_⟩, (List.append_nil _).symm⟩
      exact busy (.inl (List.ne_nil_of_mem member))
  | publish publisher arrival =>
      obtain ⟨member, same⟩ := Option.ite_none_right_eq_some.mp stepped
      cases same
      obtain ⟨after, accepted, holdsAfter⟩ := reliable.send waits arrival
      refine ⟨recorded, waiting ++ [arrival], ⟨?_, records, fun _ => ?_⟩,
        (List.append_assoc ..).symm⟩
      · rw [accepted, Option.getD_some]
        exact holdsAfter
      · exact busy (.inl (List.ne_nil_of_mem member))
  | receive =>
      cases waiting with
      | nil =>
          rw [step?_receive_of_idle reliable ⟨waits, records, busy⟩] at stepped
          obtain ⟨⟨_, deserted⟩, same⟩ := Option.ite_none_right_eq_some.mp stepped
          cases same
          refine ⟨recorded, [], ⟨waits, records, ?_⟩, (List.append_nil _).symm⟩
          rintro (remaining | remaining)
          · exact absurd deserted remaining
          · exact absurd rfl remaining
      | cons first rest =>
          obtain ⟨taken, received, accounts, _⟩ :=
            Accounts.receive reliable ⟨waits, records, busy⟩
          cases received.symm.trans stepped
          exact ⟨recorded ++ [first], rest, accounts, by simp [Move.sent?]⟩

/-- After whatever moves, what was sent is recorded already or still waits, in the order in which it
was sent. -/
theorem Accounts.run (reliable : channel.Reliable holds)
    (accounts : relay.Accounts holds traffic recorded waiting) {moves : List Move}
    (ran : relay.run? channel moves = some next) :
    ∃ recordedNext waitingNext, next.Accounts holds traffic recordedNext waitingNext ∧
      recordedNext ++ waitingNext = recorded ++ waiting ++ sent moves := by
  induction moves generalizing relay recorded waiting with
  | nil =>
      cases ran
      exact ⟨recorded, waiting, accounts, (List.append_nil _).symm⟩
  | cons move rest ih =>
      rw [run?, List.foldlM_cons] at ran
      obtain ⟨middle, stepped, onward⟩ := Option.bind_eq_some_iff.mp ran
      obtain ⟨_, _, accountsMiddle, split⟩ := accounts.step reliable stepped
      obtain ⟨_, _, accountsNext, splitNext⟩ := ih accountsMiddle onward
      refine ⟨_, _, accountsNext, ?_⟩
      rw [splitNext, split, List.append_assoc, sent, sent, List.filterMap_cons]
      cases move.sent? <;> rfl

/-- As many receptions as arrivals wait let the recorder catch up. -/
theorem Accounts.catchUp (reliable : channel.Reliable holds)
    (accounts : relay.Accounts holds traffic recorded waiting) :
    ∃ next, relay.run? channel (List.replicate waiting.length .receive) = some next ∧
      next.Accounts holds traffic (recorded ++ waiting) [] ∧
      next.publishers = relay.publishers := by
  induction waiting generalizing relay recorded with
  | nil => exact ⟨relay, rfl, (List.append_nil recorded).symm ▸ accounts, rfl⟩
  | cons first rest ih =>
      obtain ⟨middle, received, accountsMiddle, samePublishers⟩ := accounts.receive reliable
      obtain ⟨next, ran, accountsNext, same⟩ := ih accountsMiddle
      refine ⟨next, ?_, ?_, same.trans samePublishers⟩
      · rw [List.length_cons, List.replicate_succ, run?, List.foldlM_cons, received]
        exact ran
      · simpa using accountsNext

/-- Once the publishers have left, receptions alone bring the recorder to its end. -/
theorem Accounts.finish (reliable : channel.Reliable holds)
    (accounts : relay.Accounts holds traffic recorded waiting) (deserted : relay.publishers = []) :
    ∃ count ended, relay.run? channel (List.replicate count .receive) = some ended ∧
      ended.recording = false ∧ ended.traffic = traffic.recordAll (recorded ++ waiting) := by
  obtain ⟨caught, received, accountsCaught, samePublishers⟩ := accounts.catchUp reliable
  cases atWork : caught.recording with
  | false => exact ⟨_, caught, received, atWork, accountsCaught.records⟩
  | true =>
      refine ⟨waiting.length + 1, { caught with recording := false }, ?_, rfl,
        accountsCaught.records⟩
      rw [List.replicate_succ', run?_concat, received, Option.bind_some,
        step?_receive_of_idle reliable accountsCaught, if_pos]
      exact ⟨atWork, samePublishers.trans deserted⟩

/-- A recorder that has ended has recorded all that was sent. -/
theorem traffic_of_ended (reliable : channel.Reliable holds) {moves : List Move}
    (ran : (start channel traffic).run? channel moves = some relay)
    (ended : relay.recording = false) : relay.traffic = traffic.recordAll (sent moves) := by
  obtain ⟨recorded, waiting, accounts, split⟩ := (accounts_start reliable traffic).run reliable ran
  have nothing : waiting = [] := by
    by_contra remaining
    rw [accounts.busy (.inr remaining)] at ended
    contradiction
  have all : recorded ++ waiting = sent moves := split
  rw [accounts.records, ← all, nothing, List.append_nil]

/-- Arrivals that are recorded in another order, in which those of each bucket keep theirs, leave
the same answers of every rate and the same volumes behind, and every one of them counts.  On a
channel that loses nothing, whatever the publishers and the recorder do in turn: a recorder that has
ended has left what recording the arrivals at once, in the order in which they were sent, leaves;
one that is at work gets there by receptions alone; and once the publishers have left these bring it
to its end. -/
theorem delivers {channel : Channel σ} {holds : σ → List Arrival → Prop}
    (reliable : channel.Reliable holds) :
    (∀ (traffic : Traffic) (arrivals others : List Arrival),
        (∀ bucket,
          others.filter (·.bucket = bucket) = arrivals.filter (·.bucket = bucket)) →
        ∀ bucket,
          (∀ rate now, (traffic.recordAll others).violates rate bucket now =
            (traffic.recordAll arrivals).violates rate bucket now) ∧
          (traffic.recordAll others).volume bucket = (traffic.recordAll arrivals).volume bucket ∧
          (traffic.recordAll arrivals).volume bucket =
            traffic.volume bucket + arrivals.countP (·.bucket = bucket)) ∧
      ∀ (traffic : Traffic) (moves : List Move) (relay : Relay σ),
        (start channel traffic).run? channel moves = some relay →
          (relay.recording = false → relay.traffic = traffic.recordAll (sent moves)) ∧
          (∃ count caught, relay.run? channel (List.replicate count .receive) = some caught ∧
            caught.traffic = traffic.recordAll (sent moves)) ∧
          (relay.publishers = [] →
            ∃ count ended, relay.run? channel (List.replicate count .receive) = some ended ∧
              ended.recording = false ∧ ended.traffic = traffic.recordAll (sent moves)) := by
  constructor
  · intro traffic arrivals others same bucket
    have alike := traffic.get?_recordAll_congr (same bucket)
    refine ⟨fun rate now => Traffic.violates_congr alike rate now, ?_,
      traffic.volume_recordAll arrivals bucket⟩
    rw [Traffic.volume, Traffic.volume, Traffic.instants, Traffic.instants, alike]
  · intro traffic moves relay ran
    obtain ⟨recorded, waiting, accounts, split⟩ :=
      (accounts_start reliable traffic).run reliable ran
    obtain ⟨caught, received, accountsCaught, _⟩ := accounts.catchUp reliable
    have all : recorded ++ waiting = sent moves := split
    refine ⟨traffic_of_ended reliable ran, ⟨waiting.length, caught, received, ?_⟩,
      fun deserted => ?_⟩
    · rw [accountsCaught.records, all]
    · rw [← all]
      exact accounts.finish reliable deserted

/-- Two publishers on a queue take turns with the recorder. -/
def relayed : List Move :=
  [.share 0 1, .publish 0 ⟨⟨⟨"shop", "orders"⟩, "alice"⟩, 0⟩,
    .publish 1 ⟨⟨⟨"shop", "orders"⟩, "bob"⟩, 5000000000⟩, .receive,
    .publish 0 ⟨⟨⟨"shop", "orders"⟩, "alice"⟩, 1000000000⟩, .leave 0, .receive,
    .publish 1 ⟨⟨⟨"shop", "orders"⟩, "bob"⟩, 4000000000⟩, .leave 1, .receive, .receive, .receive]

/-- What they send, one publisher after the other. -/
def regrouped : List Arrival :=
  [⟨⟨⟨"shop", "orders"⟩, "bob"⟩, 5000000000⟩, ⟨⟨⟨"shop", "orders"⟩, "bob"⟩, 4000000000⟩,
    ⟨⟨⟨"shop", "orders"⟩, "alice"⟩, 0⟩, ⟨⟨⟨"shop", "orders"⟩, "alice"⟩, 1000000000⟩]

theorem delivers_relayed :
    ∃ relay, (start TrafficQueue.channel .empty).run? TrafficQueue.channel relayed = some relay ∧
      relay.recording = false ∧ relay.traffic = Traffic.empty.recordAll (sent relayed) ∧
      ∀ bucket rate now, relay.traffic.violates rate bucket now =
        (Traffic.empty.recordAll regrouped).violates rate bucket now := by
  have ends : ((start TrafficQueue.channel .empty).run? TrafficQueue.channel relayed).map
      (·.recording) = some false := by
    decide +kernel
  obtain ⟨relay, ran, ended⟩ := Option.map_eq_some_iff.mp ends
  have recorded := ((delivers TrafficQueue.reliable).2 .empty relayed relay ran).1 ended
  refine ⟨relay, ran, ended, recorded, fun bucket rate now => ?_⟩
  have same (bucket : Bucket) : (sent relayed).filter (·.bucket = bucket) =
      regrouped.filter (·.bucket = bucket) := by
    by_cases alice : ⟨⟨"shop", "orders"⟩, "alice"⟩ = bucket
    · subst alice
      decide
    · by_cases bob : ⟨⟨"shop", "orders"⟩, "bob"⟩ = bucket
      · subst bob
        decide
      · simp only [sent, relayed, regrouped, List.filterMap, Move.sent?, List.filter, alice, bob,
          decide_false]
  rw [recorded, ((delivers TrafficQueue.reliable).1 .empty _ _ same bucket).1]

/-- Draining the queue at any moment leaves what recording all arrivals at once leaves. -/
theorem drain_run {moves : List Move} {relay : Relay TrafficQueue}
    (ran : (start TrafficQueue.channel traffic).run? TrafficQueue.channel moves = some relay) :
    relay.state.drain relay.traffic = traffic.recordAll (sent moves) := by
  obtain ⟨recorded, waiting, accounts, split⟩ :=
    (accounts_start TrafficQueue.reliable traffic).run TrafficQueue.reliable ran
  have all : recorded ++ waiting = sent moves := split
  rw [TrafficQueue.drain_eq, accounts.records, accounts.waits.2, ← all, Traffic.recordAll,
    Traffic.recordAll, Traffic.recordAll, List.foldl_append]

/-- The arrival that a move sends on behalf of a publisher. -/
def Move.sentBy? (publisher : Nat) : Move → Option Arrival
  | .publish sender arrival => if sender = publisher then some arrival else none
  | _ => none

/-- What a publisher sends in moves one after the other, in order. -/
def sentBy (publisher : Nat) (moves : List Move) : List Arrival :=
  moves.filterMap (Move.sentBy? publisher)

/-- Every bucket has an owner, who alone sends what arrives in it. -/
def Owned (owner : Bucket → Nat) (moves : List Move) : Prop :=
  ∀ sender arrival, .publish sender arrival ∈ moves → sender = owner arrival.bucket

/-- What arrives in a bucket is what its owner sends there. -/
theorem filter_sent_of_owned {owner : Bucket → Nat} {moves : List Move}
    (owned : Owned owner moves) (bucket : Bucket) :
    (sent moves).filter (·.bucket = bucket) =
      (sentBy (owner bucket) moves).filter (·.bucket = bucket) := by
  induction moves with
  | nil => rfl
  | cons move rest ih =>
      have onward := ih fun sender arrival member => owned sender arrival (.tail move member)
      rw [sent] at onward ⊢
      rw [sentBy] at onward ⊢
      cases move with
      | publish sender arrival =>
          have mine := owned sender arrival (.head rest)
          by_cases here : arrival.bucket = bucket
          · subst here
            simp [Move.sent?, Move.sentBy?, mine, onward]
          · by_cases sends : sender = owner bucket <;>
              simp [Move.sent?, Move.sentBy?, sends, here, onward]
      | share publisher copy => exact onward
      | leave publisher => exact onward
      | receive => exact onward

/-- Where every bucket has an owner, the schedule does not show: recorders that have ended answer
alike when every publisher has sent the same. -/
theorem violates_of_owned (reliable : channel.Reliable holds) {moves others : List Move}
    {other : Relay σ} {owner : Bucket → Nat}
    (ran : (start channel traffic).run? channel moves = some relay)
    (ended : relay.recording = false)
    (ranOther : (start channel traffic).run? channel others = some other)
    (endedOther : other.recording = false)
    (owned : Owned owner moves) (ownedOther : Owned owner others)
    (same : ∀ publisher, sentBy publisher others = sentBy publisher moves)
    (rate : Rate) (bucket : Bucket) (now : Instant) :
    other.traffic.violates rate bucket now = relay.traffic.violates rate bucket now := by
  rw [traffic_of_ended reliable ran ended, traffic_of_ended reliable ranOther endedOther]
  refine Traffic.violates_congr (traffic.get?_recordAll_congr ?_) rate now
  rw [filter_sent_of_owned ownedOther, filter_sent_of_owned owned, same]

end Relay

end Tollgate
