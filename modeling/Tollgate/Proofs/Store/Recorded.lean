import Tollgate.Proofs.Store.Traffic
import Mathlib.Data.List.Induction

/-!
# Rates over recorded arrivals

What a recorder has taken in from the start on is a list of arrivals, and a bucket holds the times
of its own arrivals among them.  A bucket exists from its first arrival on.  The check of a rate
reads one bucket: it counts the times there, as long as they are in order, and nothing that
arrived elsewhere is seen.
-/

namespace Tollgate

namespace Traffic

/-- Record arrivals one after the other. -/
def recordAll (traffic : Traffic) (arrivals : List Arrival) : Traffic :=
  arrivals.foldl (fun traffic arrival => traffic.record arrival.bucket arrival.time) traffic

theorem recordAll_concat (traffic : Traffic) (arrivals : List Arrival) (last : Arrival) :
    traffic.recordAll (arrivals ++ [last]) = (traffic.recordAll arrivals).add (some last) :=
  List.foldl_concat ..

/-- A bucket holds the times of its arrivals, behind what it held before. -/
theorem instants_recordAll (traffic : Traffic) (arrivals : List Arrival) (bucket : Bucket) :
    (traffic.recordAll arrivals).instants bucket =
      traffic.instants bucket ++ Manifest.timesIn arrivals bucket := by
  induction arrivals using List.reverseRecOn with
  | nil => exact (List.append_nil _).symm
  | append_singleton arrivals last ih =>
      rw [recordAll_concat, instants_add, ih, List.append_assoc, Manifest.timesIn,
        Manifest.timesIn, List.filter_append, List.map_append]
      rfl

theorem mem_map_bucket_iff {arrivals : List Arrival} {bucket : Bucket} :
    bucket ∈ arrivals.map Arrival.bucket ↔ arrivals.filter (·.bucket = bucket) ≠ [] := by
  simp [List.filter_eq_nil_iff]

/-- A bucket is there when it has an arrival. -/
theorem isSome_recordAll (arrivals : List Arrival) (bucket : Bucket) :
    ((empty.recordAll arrivals).buckets.get? bucket).isSome ↔
      bucket ∈ arrivals.map Arrival.bucket := by
  induction arrivals using List.reverseRecOn with
  | nil => simp [recordAll, empty]
  | append_singleton arrivals last ih =>
      rw [recordAll_concat, add, record, Buckets.get?_insert, List.map_append, List.mem_append,
        ← ih]
      by_cases here : bucket = last.bucket
      · simp [here]
      · simp [here]

theorem get?_recordAll (arrivals : List Arrival) (bucket : Bucket) :
    (empty.recordAll arrivals).buckets.get? bucket =
      if bucket ∈ arrivals.map Arrival.bucket then some (Manifest.timesIn arrivals bucket)
      else none := by
  have times : (empty.recordAll arrivals).instants bucket = Manifest.timesIn arrivals bucket :=
    instants_recordAll empty arrivals bucket
  rw [instants] at times
  simp only [← isSome_recordAll]
  cases held : (empty.recordAll arrivals).buckets.get? bucket with
  | none => rfl
  | some instants =>
      rw [held, Option.getD_some] at times
      rw [times]
      rfl

/-- The check of a rate reads its bucket alone. -/
theorem violates_congr {traffic others : Traffic} {bucket : Bucket}
    (same : traffic.buckets.get? bucket = others.buckets.get? bucket) (rate : Rate)
    (now : Instant) : traffic.violates rate bucket now = others.violates rate bucket now := by
  rw [violates, violates, same]

/-- When the arrivals of a bucket were recorded in order of time, the check of a rate faults
exactly when the rate sets a limit, the bucket has an arrival and the window would begin before the
calendar does; otherwise it says whether the rate sets a limit, the bucket has an arrival and the
times that the rate covers are at least as many as its amount.  What arrived in other buckets,
before, between or after, makes no difference, whatever the order of the bucket. -/
theorem violates_recordAll (arrivals : List Arrival) (bucket : Bucket) (rate : Rate)
    (now : Instant) :
    ((Manifest.timesIn arrivals bucket).Pairwise (· ≤ ·) →
      (empty.recordAll arrivals).violates rate bucket now =
        if 1 ≤ rate.amount.toInt ∧ bucket ∈ arrivals.map Arrival.bucket ∧
            rate.unit.any fun unit => now - unit.nanos < Instant.earliest then
          .error .underflow
        else
          .ok (1 ≤ rate.amount.toInt ∧ bucket ∈ arrivals.map Arrival.bucket ∧
            rate.amount.toInt ≤ (Manifest.timesIn arrivals bucket).countP (rate.covers now))) ∧
      ∀ others : List Arrival,
        others.filter (·.bucket = bucket) = arrivals.filter (·.bucket = bucket) →
          (empty.recordAll others).violates rate bucket now =
            (empty.recordAll arrivals).violates rate bucket now := by
  constructor
  · intro inOrder
    have times : (empty.recordAll arrivals).instants bucket = Manifest.timesIn arrivals bucket :=
      instants_recordAll empty arrivals bucket
    rw [← times] at inOrder ⊢
    have counted : 1 ≤ rate.amount.toInt →
        rate.amount.toInt ≤
          ((empty.recordAll arrivals).instants bucket).countP (rate.covers now) →
        bucket ∈ arrivals.map Arrival.bucket := by
      intro limited spent
      rw [mem_map_bucket_iff]
      intro idle
      rw [times, Manifest.timesIn, idle, List.map_nil, List.countP_nil] at spent
      omega
    rw [violates_eq inOrder, underflows, Rate.exhausted]
    simp only [isSome_recordAll, decide_eq_true_eq]
    congr 2
    rw [decide_eq_decide]
    constructor
    · rintro ⟨limited, spent⟩
      exact ⟨limited, counted limited spent, spent⟩
    · rintro ⟨limited, _, spent⟩
      exact ⟨limited, spent⟩
  · intro others same
    apply violates_congr
    rw [get?_recordAll, get?_recordAll]
    simp only [mem_map_bucket_iff, Manifest.timesIn, same]

/-- The bucket of a caller. -/
def alice : Bucket :=
  ⟨⟨"shop", "orders"⟩, "alice"⟩

/-- Arrivals in two buckets: of one in order of time, with two at once and one ahead of the clock,
of the other not. -/
def interleaved : List Arrival :=
  [⟨alice, 0⟩, ⟨⟨⟨"shop", "orders"⟩, "bob"⟩, 5000000000⟩, ⟨alice, 1000000000⟩,
    ⟨⟨⟨"shop", "orders"⟩, "bob"⟩, 4000000000⟩, ⟨alice, 1000000000⟩, ⟨alice, 3000000000⟩]

/-- The two at once leave the window of a second together, and the other bucket does not count. -/
theorem violates_recordAll_interleaved :
    (Manifest.timesIn interleaved alice).Pairwise (· ≤ ·) ∧
      (empty.recordAll interleaved).violates ⟨3, some .second⟩ alice 1999999999 = .ok true ∧
      (empty.recordAll interleaved).violates ⟨3, some .second⟩ alice 2000000000 = .ok false ∧
      (empty.recordAll interleaved).violates ⟨1, some .week⟩ alice Instant.earliest =
        .error .underflow ∧
      (empty.recordAll interleaved).violates ⟨3, some .second⟩ alice 2000000000 =
        (empty.recordAll (interleaved.filter (·.bucket = alice))).violates ⟨3, some .second⟩
          alice 2000000000 := by
  have inOrder : (Manifest.timesIn interleaved alice).Pairwise (· ≤ ·) := by decide
  refine ⟨inOrder, ?_, ?_, ?_, ?_⟩
  · rw [(violates_recordAll interleaved alice _ _).1 inOrder]
    decide
  · rw [(violates_recordAll interleaved alice _ _).1 inOrder]
    decide
  · rw [(violates_recordAll interleaved alice _ _).1 inOrder]
    decide
  · exact (violates_recordAll (interleaved.filter (·.bucket = alice)) alice _ _).2 interleaved
      (by decide)

end Traffic

end Tollgate
