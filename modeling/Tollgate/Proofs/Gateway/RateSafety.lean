import Tollgate.Proofs.Gateway.Run
import Mathlib.Data.List.Induction

/-!
# Rates hold over whole runs

The check of a rate looks back from the present only.  When all that passes in a bucket passes under
one rate, this is enough for every window of every run: a window that ends later than a request was
checked when the request passed, and one that ends earlier does not contain it.
-/

namespace Tollgate

namespace Rate

/-- Whether a time lies in the window that ends at some instant: a unit long, or without a unit all
that went before. -/
def window (rate : Rate) (last time : Instant) : Bool :=
  rate.covers last time && time ≤ last

/-- No window holds more than the amount, and without a unit there is no more in all. -/
structure Kept (rate : Rate) (times : List Instant) : Prop where
  windows : ∀ last, times.countP (rate.window last) ≤ rate.amount.toInt
  quota : rate.unit = none → times.length ≤ rate.amount.toInt

theorem kept_nil {rate : Rate} (limited : 1 ≤ rate.amount.toInt) : rate.Kept [] where
  windows last := by
    rw [List.countP_nil]
    omega
  quota _ := by
    rw [List.length_nil]
    omega

/-- What a rate covers from a later instant on, it covers from an earlier one on. -/
theorem covers_of_le {rate : Rate} {now last time : Instant} (later : now ≤ last)
    (covered : rate.covers last time = true) : rate.covers now time = true := by
  rw [covers] at covered ⊢
  split
  · rfl
  · next unit counted =>
    rw [counted] at covered
    exact decide_eq_true (Int.lt_of_le_of_lt (Int.sub_le_sub_right later unit.nanos)
      (of_decide_eq_true covered))

/-- One more time that the check let through keeps the rate. -/
theorem Kept.concat {rate : Rate} {times : List Instant} {now : Instant} (kept : rate.Kept times)
    (room : times.countP (rate.covers now) < rate.amount.toInt) : rate.Kept (times ++ [now]) where
  windows last := by
    rw [List.countP_append]
    by_cases inside : now ≤ last
    · have fewer : times.countP (rate.window last) ≤ times.countP (rate.covers now) := by
        apply List.countP_mono_left
        intro time _ counted
        exact covers_of_le inside (Bool.and_eq_true_iff.mp counted).1
      have single : [now].countP (rate.window last) ≤ 1 := List.countP_le_length
      omega
    · have outside : [now].countP (rate.window last) = 0 := by
        simp [window, inside]
      have before := kept.windows last
      omega
  quota unlimited := by
    have all : times.countP (rate.covers now) = times.length := by
      apply List.countP_eq_length.mpr
      intro time _
      rw [covers, unlimited]
    rw [List.length_append, List.length_singleton]
    omega

end Rate

namespace Gateway

/-- The times of a bucket after a run from the start are those of what passed. -/
theorem instants_run_fresh (steps : List Step) (bucket : Bucket) :
    (fresh.run steps).traffic.instants bucket =
      ((fresh.passages steps).filter (·.bucket = bucket)).map (·.time) := by
  rw [instants_run]
  rfl

/-- In a run in order of time the times of a bucket are in order, and among those of the
requests. -/
theorem instants_run_sublist (steps : List Step) (bucket : Bucket) :
    ((fresh.run steps).traffic.instants bucket).Sublist (steps.filterMap Step.time?) := by
  rw [instants_run_fresh]
  exact (List.filter_sublist.map _).trans (times_passages_sublist fresh steps)

/-- After every run in order of time, a bucket whose requests all passed under one rate keeps the
rate. -/
theorem kept_run {steps : List Step} (inOrder : (steps.filterMap Step.time?).Pairwise (· ≤ ·))
    {bucket : Bucket} {rate : Rate} (limited : 1 ≤ rate.amount.toInt)
    (same : ∀ passage ∈ fresh.passages steps,
      passage.bucket = bucket → passage.rate = some rate) :
    rate.Kept ((fresh.run steps).traffic.instants bucket) := by
  induction steps using List.reverseRecOn with
  | nil => exact Rate.kept_nil limited
  | append_singleton steps step ih =>
      rw [List.filterMap_append, List.pairwise_append] at inOrder
      have before := (inOrder.1).sublist (instants_run_sublist steps bucket)
      rw [passages_append] at same
      rcases List.forall_mem_append.mp same with ⟨sameBefore, sameNow⟩
      have kept := ih inOrder.1 sameBefore
      have final : fresh.run (steps ++ [step]) = (fresh.run steps).step step := run_append ..
      rw [final, traffic_step, Traffic.instants_add]
      cases step with
      | event event => simpa [passed] using kept
      | request request now =>
          simp only [passed]
          cases passes : (fresh.run steps).passage? request now with
          | none => simpa using kept
          | some passage =>
              by_cases here : passage.bucket = bucket
              · have checked := sameNow passage
                  (by simp [passages, passed, passes]) here
                rcases violates_of_passage? passes checked with ⟨time, unspent⟩
                subst here
                have room := Traffic.countP_lt_of_violates before limited unspent
                have recorded := kept.concat room
                simpa [time] using recorded
              · simpa [here] using kept

/-- In a bucket whose requests all passed under one rate, no window of one unit holds more of them
than the amount, wherever it ends; without a unit, there are never more in all. -/
theorem recorded_le_amount {steps : List Step}
    (inOrder : (steps.filterMap Step.time?).Pairwise (· ≤ ·)) {bucket : Bucket} {rate : Rate}
    (limited : 1 ≤ rate.amount.toInt)
    (same : ∀ passage ∈ fresh.passages steps,
      passage.bucket = bucket → passage.rate = some rate) :
    (∀ unit, rate.unit = some unit → ∀ last : Instant,
        ((fresh.run steps).traffic.instants bucket).countP
          (fun time => last - unit.nanos < time ∧ time ≤ last) ≤ rate.amount.toInt) ∧
      (rate.unit = none → (fresh.run steps).traffic.volume bucket ≤ rate.amount.toInt) := by
  have kept := kept_run inOrder limited same
  constructor
  · intro unit counted last
    have spelled : rate.window last =
        fun time => decide (last - unit.nanos < time ∧ time ≤ last) := by
      funext time
      rw [Rate.window, Rate.covers, counted, Bool.decide_and]
    rw [← spelled]
    exact kept.windows last
  · exact kept.quota

/-- A caller with two requests a second, whose value is replaced on the way. -/
def rotation : List Step :=
  [.event (.added (.route
      { id := ⟨"default", "api"⟩, sourcePath := "/api", backend := "one", binding := some "all" })),
    .event (.added (.binding
      { id := ⟨"default", "all"⟩,
        entries := [{ credential := "alice", defaultRule := .global,
                      rate := some ⟨2, some .second⟩ }] })),
    .event (.added (.credential ⟨⟨"default", "alice"⟩, ["first"]⟩)),
    .request { path := "/api", method := "GET", credential := some "first" } 0,
    .request { path := "/api", method := "GET", credential := some "first" } 500000000,
    .event (.deleted (.credential ⟨⟨"default", "alice"⟩, ["first"]⟩)),
    .event (.added (.credential ⟨⟨"default", "alice"⟩, ["second"]⟩)),
    .request { path := "/api", method := "GET", credential := some "second" } 999999999,
    .request { path := "/api", method := "GET", credential := some "second" } 1000000000]

/-- The new value does not buy a third request in one second. -/
theorem recorded_le_amount_rotation :
    ((∀ unit, some RateUnit.second = some unit → ∀ last : Instant,
        ((fresh.run rotation).traffic.instants ⟨⟨"default", "api"⟩, "alice"⟩).countP
          (fun time => last - unit.nanos < time ∧ time ≤ last) ≤ (2 : Int64).toInt) ∧
      (some RateUnit.second = none →
        (fresh.run rotation).traffic.volume ⟨⟨"default", "api"⟩, "alice"⟩ ≤ (2 : Int64).toInt)) ∧
      (fresh.run rotation).traffic.instants ⟨⟨"default", "api"⟩, "alice"⟩ =
        [0, 500000000, 1000000000] :=
  ⟨@recorded_le_amount rotation (by decide) ⟨⟨"default", "api"⟩, "alice"⟩ ⟨2, some .second⟩
    (by decide) (by decide +kernel), by decide +kernel⟩

end Gateway

end Tollgate
