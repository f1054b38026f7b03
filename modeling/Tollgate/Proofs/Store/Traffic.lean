import Tollgate.Proofs.Evaluator
import Mathlib.Data.List.Count

/-!
# Counting recorded traffic

On a bucket in order of time the bisection finds how many instants lie up to a cutoff, so the check
of a rate is a plain count of the instants that the rate covers.
-/

namespace Tollgate

/-- Bisection finds the boundary of a first stretch, if the candidates enclose it. -/
theorem bisect_eq {before : Nat → Bool} {boundary : Nat}
    (stretch : ∀ index, before index = decide (index < boundary)) {fuel base size : Nat}
    (enough : size ≤ fuel) (low : base ≤ boundary) (high : boundary ≤ base + size) :
    bisect before fuel base size = boundary := by
  induction fuel generalizing base size with
  | zero =>
      rw [bisect]
      omega
  | succ fuel ih =>
      rw [bisect]
      split
      · omega
      · split
        · next single =>
          subst single
          rw [stretch]
          by_cases inside : base < boundary
          · rw [if_pos (decide_eq_true inside)]
            omega
          · rw [if_neg (by simpa using inside)]
            omega
        · next several single =>
          have half : 0 < size / 2 ∧ size / 2 ≤ size - size / 2 := by omega
          change bisect before fuel
            (if before (base + size / 2) then base + size / 2 else base) (size - size / 2) =
              boundary
          rw [stretch]
          by_cases inside : base + size / 2 < boundary
          · rw [if_pos (decide_eq_true inside)]
            exact ih (by omega) (by omega) (by omega)
          · rw [if_neg (by simpa using inside)]
            exact ih (by omega) (by omega) (by omega)

/-- In order of time, the instants up to a cutoff come first. -/
theorem getElem?_le_iff_lt_countP {instants : List Instant}
    (inOrder : instants.Pairwise (· ≤ ·)) (cutoff : Instant) (index : Nat) :
    (∃ time, instants[index]? = some time ∧ time ≤ cutoff) ↔
      index < instants.countP (· ≤ cutoff) := by
  induction instants generalizing index with
  | nil => simp
  | cons first rest ih =>
      rcases List.pairwise_cons.mp inOrder with ⟨least, restInOrder⟩
      rw [List.countP_cons]
      by_cases early : first ≤ cutoff
      · cases index with
        | zero => simp [early]
        | succ index => simp [early, ih restInOrder]
      · have none : rest.countP (· ≤ cutoff) = 0 := by
          rw [List.countP_eq_zero]
          intro time member within
          exact early (Int.le_trans (least time member) (of_decide_eq_true within))
        cases index with
        | zero => simp [early, none]
        | succ index => simp [early, none, ih restInOrder]

namespace Buckets

@[simp]
theorem get?_empty (bucket : Bucket) : empty.get? bucket = none :=
  rfl

/-- A bucket is written alone, whatever other buckets share a level with it. -/
theorem get?_insert (buckets : Buckets) (bucket other : Bucket) (instants : List Instant) :
    (buckets.insert bucket instants).get? other =
      if other = bucket then some instants else buckets.get? other := by
  rcases bucket with ⟨route, credential⟩
  rcases other with ⟨otherRoute, otherCredential⟩
  simp only [get?, insert, Spaces.get?_insert, Bucket.mk.injEq]
  by_cases here : otherRoute = route
  · subst here
    rw [if_pos rfl, Option.bind_some, Dict.get?_insert]
    cases buckets.routes.get? otherRoute <;> simp
  · simp [here]

end Buckets

namespace Traffic

/-- The bisection counts the instants after the cutoff. -/
theorem volumeAfter_eq {instants : List Instant} (inOrder : instants.Pairwise (· ≤ ·))
    (cutoff : Instant) : volumeAfter cutoff instants = instants.countP (cutoff < ·) := by
  have found : volumeAfter cutoff instants =
      instants.length - instants.countP (· ≤ cutoff) := by
    rw [volumeAfter]
    congr 1
    apply bisect_eq
    · intro index
      rw [Bool.eq_iff_iff, decide_eq_true_eq, ← getElem?_le_iff_lt_countP inOrder]
      cases instants[index]? <;> simp
    · exact Nat.le_refl instants.length
    · exact Nat.zero_le _
    · rw [Nat.zero_add]
      exact List.countP_le_length
  have total : instants.length = _ :=
    List.length_eq_countP_add_countP fun time => decide (time ≤ cutoff)
  have later : instants.countP (fun time => ¬decide (time ≤ cutoff) = true) =
      instants.countP (cutoff < ·) := by
    congr 1
    funext time
    simp
  omega

theorem instants_record (traffic : Traffic) (bucket other : Bucket) (time : Instant) :
    (traffic.record bucket time).instants other =
      if other = bucket then traffic.instants bucket ++ [time] else traffic.instants other := by
  rw [instants, record, Buckets.get?_insert]
  split
  · rfl
  · rfl

/-- The traffic with one more request, if there is one. -/
def add (traffic : Traffic) : Option Arrival → Traffic
  | none => traffic
  | some arrival => traffic.record arrival.bucket arrival.time

theorem instants_add (traffic : Traffic) (passed : Option Arrival) (bucket : Bucket) :
    (traffic.add passed).instants bucket =
      traffic.instants bucket ++
        (passed.toList.filter (·.bucket = bucket)).map Arrival.time := by
  cases passed with
  | none => simp [add]
  | some arrival =>
      rw [add, instants_record]
      by_cases same : bucket = arrival.bucket
      · simp [same]
      · simp [same, Ne.symm same]

/-- Without a unit all traffic counts, in whatever order the bucket is. -/
theorem violates_of_quota (traffic : Traffic) {rate : Rate} (quota : rate.unit = none)
    (bucket : Bucket) (now : Instant) :
    traffic.violates rate bucket now = .ok (rate.exhausted (traffic.instants bucket) now) := by
  have all : rate.covers now = fun _ => true := by
    funext time
    rw [Rate.covers, quota]
  rw [violates]
  split
  · next below =>
    rw [Int64.lt_iff_toInt_lt] at below
    have unlimited : ¬1 ≤ rate.amount.toInt := Int.not_le.mpr below
    simp [Rate.exhausted, unlimited]
  · next positive =>
    rw [Int64.lt_iff_toInt_lt, Int.not_lt] at positive
    have limited : 1 ≤ rate.amount.toInt := positive
    cases held : traffic.buckets.get? bucket with
    | none =>
        have unspent : ¬rate.amount.toInt ≤ 0 := by omega
        simp [instants, held, Rate.exhausted, unspent]
    | some times => simp [instants, held, quota, Rate.exhausted, all, limited]

/-- Whether the window of a rate begins before the calendar does. -/
def underflows (traffic : Traffic) (rate : Rate) (bucket : Bucket) (now : Instant) : Bool :=
  1 ≤ rate.amount.toInt ∧ (traffic.buckets.get? bucket).isSome ∧
    rate.unit.any fun unit => now - unit.nanos < Instant.earliest

/-- On a bucket in order of time the check of a rate is a count, unless it faults. -/
theorem violates_eq {traffic : Traffic} {bucket : Bucket}
    (inOrder : (traffic.instants bucket).Pairwise (· ≤ ·)) (rate : Rate) (now : Instant) :
    traffic.violates rate bucket now =
      if traffic.underflows rate bucket now then .error .underflow
      else .ok (rate.exhausted (traffic.instants bucket) now) := by
  cases window : rate.unit with
  | none =>
      rw [traffic.violates_of_quota window]
      simp [underflows, window]
  | some unit =>
      have recent : rate.covers now = fun time => decide (now - unit.nanos < time) := by
        funext time
        rw [Rate.covers, window]
      have positive : rate.amount < 1 ↔ ¬1 ≤ rate.amount.toInt := by
        rw [Int64.lt_iff_toInt_lt]
        exact Int.not_le.symm
      rw [violates]
      by_cases limited : 1 ≤ rate.amount.toInt
      · rw [if_neg (by rw [positive]; exact not_not.mpr limited)]
        cases held : traffic.buckets.get? bucket with
        | none =>
            have idle : traffic.instants bucket = [] := by rw [instants, held, Option.getD_none]
            have unspent : ¬rate.amount.toInt ≤ 0 := by omega
            simp [underflows, held, idle, Rate.exhausted, unspent]
        | some times =>
            have recorded : traffic.instants bucket = times := by
              rw [instants, held, Option.getD_some]
            rw [recorded] at inOrder ⊢
            simp [underflows, held, window, Rate.exhausted, recent, limited,
              volumeAfter_eq inOrder]
      · rw [if_pos (positive.mpr limited)]
        simp [underflows, Rate.exhausted, limited]

/-- From a week after the start of the calendar on, every window is in it. -/
theorem underflows_of_late (traffic : Traffic) (rate : Rate) (bucket : Bucket) {now : Instant}
    (late : Instant.earliest + RateUnit.week.nanos ≤ now) :
    traffic.underflows rate bucket now = false := by
  rw [← Bool.not_eq_true]
  intro faults
  have early := (of_decide_eq_true faults).2.2
  rw [Option.any_eq_true] at early
  rcases early with ⟨unit, _, before⟩
  have short : unit.nanos ≤ RateUnit.week.nanos := by cases unit <;> decide
  have within : Instant.earliest + unit.nanos ≤ now :=
    Int.le_trans (Int.add_le_add_left short _) late
  exact Int.not_lt.mpr (Int.le_sub_right_of_add_le within) (of_decide_eq_true before)

/-- With every window in the calendar the check does not fault, in whatever order the bucket is. -/
theorem exists_violates_of_late (traffic : Traffic) (rate : Rate) (bucket : Bucket) {now : Instant}
    (late : Instant.earliest + RateUnit.week.nanos ≤ now) :
    ∃ spent, traffic.violates rate bucket now = .ok spent := by
  have inside := traffic.underflows_of_late rate bucket late
  rw [violates]
  split
  · exact ⟨false, rfl⟩
  · next positive =>
    rw [Int64.lt_iff_toInt_lt, Int.not_lt] at positive
    cases held : traffic.buckets.get? bucket with
    | none => exact ⟨false, rfl⟩
    | some times =>
        cases window : rate.unit with
        | none => exact ⟨_, rfl⟩
        | some unit =>
            have limited : 1 ≤ rate.amount.toInt := positive
            have bounded : ¬now - unit.nanos < Instant.earliest := by
              simpa [underflows, held, window, limited] using inside
            simp only [if_neg bounded]
            exact ⟨_, rfl⟩

/-- On a bucket in order of time it is then the count. -/
theorem violates_of_late {traffic : Traffic} {bucket : Bucket}
    (inOrder : (traffic.instants bucket).Pairwise (· ≤ ·)) (rate : Rate) {now : Instant}
    (late : Instant.earliest + RateUnit.week.nanos ≤ now) :
    traffic.violates rate bucket now = .ok (rate.exhausted (traffic.instants bucket) now) := by
  rw [violates_eq inOrder, traffic.underflows_of_late rate bucket late]
  rfl

/-- What a check lets through has not used up the rate. -/
theorem countP_lt_of_violates {traffic : Traffic} {bucket : Bucket}
    (inOrder : (traffic.instants bucket).Pairwise (· ≤ ·)) {rate : Rate} {now : Instant}
    (limited : 1 ≤ rate.amount.toInt) (passes : traffic.violates rate bucket now = .ok false) :
    (traffic.instants bucket).countP (rate.covers now) < rate.amount.toInt := by
  rw [violates_eq inOrder] at passes
  split at passes
  · contradiction
  · have unspent : rate.exhausted (traffic.instants bucket) now = false := Except.ok.inj passes
    rw [Rate.exhausted, decide_eq_false_iff_not, not_and] at unspent
    exact Int.not_le.mp (unspent limited)

end Traffic

end Tollgate
