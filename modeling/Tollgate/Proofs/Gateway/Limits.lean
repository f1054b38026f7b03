import Tollgate.Gateway.Request
import Tollgate.Proofs.Store.Grants
import Tollgate.Proofs.Store.Recorded

/-!
# Whose rate is checked

A request is held against the rate that the loaded grants give its caller, and that is the rate of
the last entry for the credential.  The check that is handed the binding itself takes the first
entry.  The two are meant to be one check, and are so exactly for the credentials whose first and
last entry set the same limit.  That the former is the check which authorization makes is said at
the end.
-/

namespace Tollgate

namespace RateUnit

theorem nanos_pos (unit : RateUnit) : 0 < unit.nanos := by
  cases unit <;> decide

theorem nanos_injective : Function.Injective nanos := by
  intro unit other
  cases unit <;> cases other <;> decide

end RateUnit

namespace Rate

/-- Whether a rate sets a limit at all. -/
def limits (rate : Rate) : Bool :=
  1 ≤ rate.amount.toInt

variable {rate other : Rate} {unit : RateUnit} {now time : Instant}

theorem covers_now (rate : Rate) (now : Instant) : rate.covers now now = true := by
  rw [covers]
  split
  · rfl
  · next unit _ => exact decide_eq_true (Int.sub_lt_self now unit.nanos_pos)

/-- A window is as long as it reaches back. -/
theorem covers_back (counted : rate.unit = some unit) (now : Instant) (other : RateUnit) :
    rate.covers now (now - other.nanos) = decide (other.nanos < unit.nanos) := by
  rw [covers, counted]
  apply decide_eq_decide.mpr
  exact Int.sub_lt_sub_left_iff

/-- Rates that cover the same times have the same unit. -/
theorem unit_eq_of_covers
    (same : ∀ time, rate.covers now time = other.covers now time) : rate.unit = other.unit := by
  cases counted : rate.unit with
  | none =>
      cases otherCounted : other.unit with
      | none => rfl
      | some last =>
          have back := same (now - last.nanos)
          rw [covers_back otherCounted, covers, counted] at back
          simp at back
  | some unit =>
      cases otherCounted : other.unit with
      | none =>
          have back := same (now - unit.nanos)
          rw [covers_back counted, covers, otherCounted] at back
          simp at back
      | some last =>
          have first := same (now - unit.nanos)
          have second := same (now - last.nanos)
          rw [covers_back counted, covers_back otherCounted] at first second
          have longer : ¬unit.nanos < last.nanos := by simpa using first.symm
          have shorter : ¬last.nanos < unit.nanos := by simpa using second
          rw [RateUnit.nanos_injective
            (Int.le_antisymm (Int.not_lt.mp shorter) (Int.not_lt.mp longer))]

/-- As many requests as the amount use up a limit, if it covers their time. -/
theorem exhausted_replicate (limited : rate.limits = true)
    (covered : rate.covers now time = true) :
    rate.exhausted (List.replicate rate.amount.toInt.toNat time) now = true := by
  have positive : 1 ≤ rate.amount.toInt := of_decide_eq_true limited
  apply decide_eq_true
  rw [List.countP_replicate, if_pos covered]
  omega

/-- What is used up whenever a limit is has no larger amount, and covers what the limit covers. -/
theorem tighter_of_exhausted (limited : rate.limits = true)
    (implied : ∀ times : List Instant, times.Pairwise (· ≤ ·) →
      rate.exhausted times now = true → other.exhausted times now = true)
    (covered : rate.covers now time = true) :
    other.amount.toInt ≤ rate.amount.toInt ∧ other.covers now time = true := by
  have positive : 1 ≤ rate.amount.toInt := of_decide_eq_true limited
  have inOrder : (List.replicate rate.amount.toInt.toNat time).Pairwise (· ≤ ·) :=
    List.pairwise_replicate.mpr (.inr (Int.le_refl time))
  have spent := of_decide_eq_true (implied _ inOrder (exhausted_replicate limited covered))
  rw [List.countP_replicate] at spent
  split at spent
  · next also => exact ⟨by omega, also⟩
  · omega

/-- Limits that are used up by the same requests are the same. -/
theorem eq_of_exhausted (limited : rate.limits = true) (otherLimited : other.limits = true)
    (same : ∀ times : List Instant, times.Pairwise (· ≤ ·) →
      rate.exhausted times now = other.exhausted times now) : rate = other := by
  have forth (time : Instant) (covered : rate.covers now time = true) :=
    tighter_of_exhausted limited (fun times inOrder spent => same times inOrder ▸ spent) covered
  have back (time : Instant) (covered : other.covers now time = true) :=
    tighter_of_exhausted otherLimited (fun times inOrder spent => (same times inOrder).symm ▸ spent)
      covered
  have amounts : rate.amount = other.amount := by
    apply Int64.toInt_inj.mp
    exact Int.le_antisymm (back now (other.covers_now now)).1 (forth now (rate.covers_now now)).1
  have units : rate.unit = other.unit := by
    apply unit_eq_of_covers
    intro time
    rw [Bool.eq_iff_iff]
    exact ⟨fun covered => (forth time covered).2, fun covered => (back time covered).2⟩
  cases rate
  cases other
  cases amounts
  cases units
  rfl

/-- A limit is there as well where the same requests use up whatever limit there is. -/
theorem mem_of_exhausted {first second : Option Rate} (limited : ∀ rate ∈ first, rate.limits = true)
    (otherLimited : ∀ rate ∈ second, rate.limits = true)
    (same : ∀ times : List Instant, times.Pairwise (· ≤ ·) →
      first.any (·.exhausted times now) = second.any (·.exhausted times now))
    (held : rate ∈ first) : rate ∈ second := by
  have spent := exhausted_replicate (limited rate held) (rate.covers_now now)
  have inOrder : (List.replicate rate.amount.toInt.toNat now).Pairwise (· ≤ ·) :=
    List.pairwise_replicate.mpr (.inr (Int.le_refl now))
  cases held
  have alike := same _ inOrder
  rw [Option.any_some, spent] at alike
  obtain ⟨other, present, _⟩ := (Option.any_eq_true ..).mp alike.symm
  cases present
  rw [eq_of_exhausted (limited rate rfl) (otherLimited other rfl) same]
  rfl

end Rate

namespace PermissionEntry

/-- The limit that an entry sets, if any. -/
def limit? (entry : PermissionEntry) : Option Rate :=
  entry.rate.filter Rate.limits

end PermissionEntry

namespace Traffic

/-- The check of a rate that may be absent; nothing exhausts a rate that is. -/
def exceeds (traffic : Traffic) (bucket : Bucket) (now : Instant) :
    Option Rate → Except ClockFault Bool
  | none => .ok false
  | some rate => traffic.violates rate bucket now

/-- The check of a request for a route, with the rate that the loaded grants give its caller;
without an entry or a rate nothing is exhausted. -/
def violatesGrants (traffic : Traffic) (route : ResourceName) (grants : Grants)
    (binding : ResourceName) (credential path : String) (now : Instant) :
    Except ClockFault Bool :=
  traffic.exceeds ⟨route, credential⟩ now ((grants.get? binding credential path).bind (·.rate))

variable (traffic : Traffic) (bucket : Bucket) (now : Instant)

/-- A rate that sets no limit is as good as none. -/
theorem exceeds_filter (rate : Option Rate) :
    traffic.exceeds bucket now (rate.filter Rate.limits) = traffic.exceeds bucket now rate := by
  cases rate with
  | none => rfl
  | some rate =>
      rw [Option.filter_some]
      split
      · rfl
      · next unlimited =>
        have below : rate.amount < 1 := by
          rw [Int64.lt_iff_toInt_lt]
          exact Int.not_le.mp (by simpa [Rate.limits] using unlimited)
        rw [exceeds, exceeds, violates, if_pos below]

/-- On a bucket in order of time the check of a limit is a count, with every window in the
calendar. -/
theorem exceeds_recordAll {times : List Instant} (inOrder : times.Pairwise (· ≤ ·))
    (late : Instant.earliest + RateUnit.week.nanos ≤ now) (limit : Option Rate) :
    (empty.recordAll (times.map (Arrival.mk bucket))).exceeds bucket now limit =
      .ok (limit.any (·.exhausted times now)) := by
  have recorded : (empty.recordAll (times.map (Arrival.mk bucket))).instants bucket = times := by
    rw [instants_recordAll, Manifest.timesIn, List.filter_eq_self.mpr]
    · simp [instants, empty, Function.comp_def]
    · simp
  cases limit with
  | none => rfl
  | some rate =>
      rw [exceeds, violates_of_late (recorded.symm ▸ inOrder) rate late, recorded]
      rfl

variable {bucket now} in
/-- Limits that every state of the traffic exceeds alike are the same. -/
theorem eq_of_exceeds (late : Instant.earliest + RateUnit.week.nanos ≤ now)
    {first second : Option Rate} (limited : ∀ rate ∈ first, rate.limits = true)
    (otherLimited : ∀ rate ∈ second, rate.limits = true)
    (same : ∀ traffic : Traffic,
      traffic.exceeds bucket now first = traffic.exceeds bucket now second) : first = second := by
  have counts : ∀ times : List Instant, times.Pairwise (· ≤ ·) →
      first.any (·.exhausted times now) = second.any (·.exhausted times now) := by
    intro times inOrder
    have alike := same (empty.recordAll (times.map (Arrival.mk bucket)))
    rw [exceeds_recordAll bucket now inOrder late, exceeds_recordAll bucket now inOrder late]
      at alike
    exact Except.ok.inj alike
  apply Option.ext
  intro rate
  constructor
  · exact Rate.mem_of_exhausted limited otherLimited counts
  · exact Rate.mem_of_exhausted otherLimited limited
      fun times inOrder => (counts times inOrder).symm

/-- The grants of a binding check the limit of the last entry. -/
theorem violatesGrants_set (grants : Grants) (binding : Binding) (route : ResourceName)
    (credential path : String) :
    traffic.violatesGrants route (grants.set binding) binding.id credential path now =
      traffic.exceeds ⟨route, credential⟩ now
        ((binding.entryFor? credential).bind PermissionEntry.limit?) := by
  rw [violatesGrants, Grants.get?_set, if_pos rfl, Binding.permits?]
  cases binding.entryFor? credential with
  | none => rfl
  | some entry =>
      rw [Option.map_some, Option.bind_some, Option.bind_some, PermissionEntry.limit?,
        exceeds_filter]

/-- The binding itself checks the limit of the first entry. -/
theorem violatesBinding_eq (binding : Binding) (route : ResourceName) (credential : String) :
    traffic.violatesBinding route binding credential now =
      traffic.exceeds ⟨route, credential⟩ now
        ((binding.permission? credential).bind PermissionEntry.limit?) := by
  rw [violatesBinding]
  cases binding.permission? credential with
  | none => rfl
  | some entry =>
      rw [Option.bind_some, Option.bind_some, PermissionEntry.limit?, exceeds_filter]
      cases entry.rate <;> rfl

/-- A request is held against the same limit by the loaded binding and by the binding itself,
whatever the state of the traffic and of the grants, exactly when the last and the first entry for
its credential set the same limit. -/
theorem violatesGrants_agrees_iff (binding : Binding) (credential : String) :
    (∀ (traffic : Traffic) (grants : Grants) (route : ResourceName) (path : String)
        (now : Instant),
      traffic.violatesGrants route (grants.set binding) binding.id credential path now =
        traffic.violatesBinding route binding credential now) ↔
      (binding.entryFor? credential).bind PermissionEntry.limit? =
        (binding.permission? credential).bind PermissionEntry.limit? := by
  have limited : ∀ (entry : Option PermissionEntry) (rate : Rate),
      rate ∈ entry.bind PermissionEntry.limit? → rate.limits = true := by
    intro entry rate found
    obtain ⟨_, _, kept⟩ := Option.bind_eq_some_iff.mp found
    exact (Option.filter_eq_some_iff.mp kept).2
  simp only [violatesGrants_set, violatesBinding_eq]
  constructor
  · intro same
    -- Any late enough time tells the limits apart; any bucket will do as well.
    have start : Instant.earliest + RateUnit.week.nanos ≤ 0 := by decide
    apply eq_of_exceeds start (limited _) (limited _)
    intro traffic
    exact same traffic .empty ⟨"", ""⟩ "" 0
  · intro same traffic grants route path now
    rw [same]

/-- A binding that lists one caller twice, with a quota in the first place only. -/
def listedTwice : Binding where
  id := ⟨"default", "callers"⟩
  entries :=
    [{ credential := "alice", defaultRule := .global, rate := some ⟨1, none⟩ },
      { credential := "alice", defaultRule := .global }]

/-- The quota is used up for the binding, and there is none for the request. -/
theorem violatesGrants_disagrees :
    ¬∀ (binding : Binding) (traffic : Traffic) (grants : Grants) (route : ResourceName)
        (credential path : String) (now : Instant),
      traffic.violatesGrants route (grants.set binding) binding.id credential path now =
        traffic.violatesBinding route binding credential now := by
  intro claim
  have same := claim listedTwice (empty.record ⟨⟨"default", "api"⟩, "alice"⟩ 0) .empty
    ⟨"default", "api"⟩ "alice" "/" 0
  revert same
  decide +kernel

end Traffic

namespace Gateway

/-- A caller who may use the method is turned away exactly when the check of the request says so. -/
theorem authorize_of_allowed {gateway : Gateway} {route : Route} {name path : String}
    {request : Request} {caller : Credential} {permission : Permission}
    (loaded : gateway.grants.contains ⟨route.id.space, name⟩ = true)
    (known : gateway.caller? route.id.space request = some caller)
    (granted : gateway.grants.get? ⟨route.id.space, name⟩ caller.id.name path = some permission)
    (allowed : permission.rule.authorizes request.method = true) (now : Instant) :
    gateway.authorize route name request path now =
      (gateway.traffic.violatesGrants route.id gateway.grants ⟨route.id.space, name⟩
        caller.id.name path now).map
          fun spent => if spent then .error .rateLimited else .ok caller.id.name := by
  simp only [authorize, loaded, known, granted, allowed, Bool.not_true, Bool.false_eq_true,
    if_false, Traffic.violatesGrants, Option.bind_some]
  cases permission.rate with
  | none => rfl
  | some rate =>
      simp only [Traffic.exceeds]
      cases gateway.traffic.violates rate ⟨route.id, caller.id.name⟩ now with
      | error fault => rfl
      | ok spent => cases spent <;> rfl

end Gateway

end Tollgate
