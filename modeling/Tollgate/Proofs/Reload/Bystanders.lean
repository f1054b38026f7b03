import Tollgate.Proofs.Reload.Keyed
import Tollgate.Proofs.Reload.Keyring
import Tollgate.Proofs.Reload.Routes

/-!
# What a reload passes by

A reload takes its steps one after the other, and some of them may be refused.  None of them
touches a slot, a value or a name of a resource that stays as it is, so such a resource is served
without a gap.
-/

namespace Tollgate

namespace Routes

variable {routes : Routes} {table : Table} {previous next : List Route} {event : Event}

/-- A change of the routes is a write that names only slots of routes with its own name. -/
theorem absorb_eq_write (routes : Routes) (change : Section.routes.Change previous next event) :
    ∃ write : Write, Batch.absorb answer routes event = routes.write write ∧
      ∀ slot ∈ write.slots, ∃ route, (route ∈ previous ∨ route ∈ next) ∧
        route.id = event.resource.id ∧ route.slot = slot := by
  cases change with
  | gone old known =>
      refine ⟨.delete old, Batch.absorb_of_ok (answer_deleted routes old), ?_⟩
      intro slot named
      exact ⟨old, Or.inl known, rfl, (List.mem_singleton.mp named).symm⟩
  | new item present =>
      refine ⟨.set item, Batch.absorb_of_ok (answer_added routes item), ?_⟩
      intro slot named
      exact ⟨item, Or.inr present, rfl, (List.mem_singleton.mp named).symm⟩
  | changed old new known present same =>
      refine ⟨.update old new, absorb_updated routes old new, ?_⟩
      intro slot named
      rcases List.mem_cons.mp named with rfl | last
      · exact ⟨old, Or.inl known, same, rfl⟩
      · exact ⟨new, Or.inr present, rfl, (List.mem_singleton.mp last).symm⟩

/-- A change leaves the slots that no route of its name has. -/
theorem Represents.absorb (represents : routes.Represents table)
    (change : Section.routes.Change previous next event) {slot : List String × String}
    (apart : ∀ route, route ∈ previous ∨ route ∈ next → route.id = event.resource.id →
      route.slot ≠ slot) :
    ∃ changed : Table, (Batch.absorb answer routes event).Represents changed ∧
      changed.get? slot = table.get? slot := by
  obtain ⟨write, written, named⟩ := absorb_eq_write routes change
  refine ⟨table.write write, written ▸ represents.write write, ?_⟩
  apply table.get?_write_of_notMem
  intro member
  obtain ⟨route, listed, same, home⟩ := named slot member
  exact apart route listed same home

end Routes

namespace Keyring

variable {previous next : List Credential} {event : Event} {value : String}

/-- A change leaves the values that no credential of its name lists. -/
theorem get?_absorb_change (keys : Keyring)
    (change : Section.credentials.Change previous next event)
    (apart : ∀ item, item ∈ previous ∨ item ∈ next → item.id = event.resource.id →
      value ∉ item.revisions) :
    (Batch.absorb answer keys event).get? value = keys.get? value := by
  cases change with
  | gone old known =>
      have unlisted := apart old (Or.inl known) rfl
      exact (get?_absorb_deleted keys old value).trans (if_neg unlisted)
  | new item present =>
      have unlisted := apart item (Or.inr present) rfl
      have entered : Batch.absorb answer keys (.added (Section.credentials.wrap item)) =
          keys.set item := Batch.absorb_of_ok (answer_added keys item)
      rw [entered, get?_set, if_neg unlisted]
  | changed old new known present same =>
      have unlistedOld := apart old (Or.inl known) same
      have unlistedNew := apart new (Or.inr present) rfl
      have replaced : Batch.absorb answer keys (.updated (Section.credentials.wrap old)
          (Section.credentials.wrap new)) = keys.update old new :=
        Batch.absorb_of_ok (answer_updated keys old new)
      rw [replaced, get?_update, List.count_eq_zero.mpr unlistedOld, if_neg (Nat.not_lt_zero _),
        if_neg unlistedNew]

end Keyring

namespace Manifest

/-- A canned response. -/
def canned : MockRoute where
  path := "/"
  methods := ["GET"]
  headers := .empty

/-- A route that is protected and answered by a mock target, with all that it needs. -/
def guarded : Manifest where
  routes :=
    [{ id := ⟨"default", "c"⟩, sourcePath := "/c", backend := "canned", binding := some "callers",
       mock := true }]
  bindings :=
    [{ id := ⟨"default", "callers"⟩, entries := [{ credential := "k", defaultRule := .global }] }]
  credentials := [⟨⟨"default", "k"⟩, ["x"]⟩]
  mockTargets := [⟨⟨"default", "canned"⟩, [canned]⟩]

/-- The guarded route beside two others. -/
def guardedBeside (first second : String) : Manifest :=
  { guarded with routes := guarded.routes ++ (twoRoutes first second).routes }

/-- The first event of two routes that trade places, which is refused. -/
def firstOfSwap : List Event :=
  ((guardedBeside "/a" "/b").diff (guardedBeside "/b" "/a")).take 1

end Manifest

namespace Gateway

open Manifest

/-- A gateway that was loaded with a manifest, after some events. -/
def midway (manifest : Manifest) (events : List Event) : Gateway :=
  ((loaded manifest).applyAll events).2

section Bystanders

variable {previous next : Manifest} {events : List Event}

/-- A route that stays serves its path and host after any events of the reload. -/
theorem routes_midway (keysBefore : previous.DistinctKeys) (slotsBefore : previous.DistinctSlots)
    (keysAfter : next.DistinctKeys) (slotsAfter : next.DistinctSlots)
    (drawn : events ⊆ previous.diff next) {route : Route} (known : route ∈ previous.routes)
    (kept : route ∈ next.routes) :
    (midway previous events).routes.get? route.sourcePath route.host = some route := by
  have served : ∃ table : Routes.Table, (midway previous events).routes.Represents table ∧
      table.get? route.slot = some route := by
    refine Store.routes.state_applyAll_induction
      (fun routes => ∃ table : Routes.Table, routes.Represents table ∧
        table.get? route.slot = some route) drawn
      ⟨_, Routes.represents_loaded previous,
        (Routes.Table.lists_fill slotsBefore _ _).mpr ⟨rfl, known⟩⟩ ?_
    rintro event change routes ⟨table, represents, held⟩
    have unnamed := change.id_ne _ (Section.routes.nodup_names keysBefore)
      (Section.routes.nodup_names keysAfter) known kept
    -- a route of the concerned name in this slot would be the route itself
    obtain ⟨changed, represented, same⟩ := represents.absorb change <| by
      rintro other (before | after) named home
      · exact unnamed (named ▸ congrArg Route.id
          (List.inj_on_of_nodup_map slotsBefore before known home))
      · exact unnamed (named ▸ congrArg Route.id
          (List.inj_on_of_nodup_map slotsAfter after kept home))
    exact ⟨changed, represented, same.trans held⟩
  obtain ⟨table, represents, held⟩ := served
  exact represents.get?_sourcePath held

/-- A value of a credential that stays leads to it after any events of the reload. -/
theorem keys_midway (keysBefore : previous.DistinctKeys) (valuesBefore : previous.values.Nodup)
    (keysAfter : next.DistinctKeys) (valuesAfter : next.values.Nodup)
    (drawn : events ⊆ previous.diff next) {credential : Credential}
    (known : credential ∈ previous.credentials) (kept : credential ∈ next.credentials)
    {value : String} (listed : value ∈ credential.revisions) :
    (midway previous events).keys.get? value = some credential := by
  refine Store.keys.state_applyAll_induction (fun keys => keys.get? value = some credential) drawn
    (Keyring.get?_loaded_of_listed valuesBefore known listed) ?_
  intro event change keys held
  have unnamed := change.id_ne _ (Section.credentials.nodup_names keysBefore)
    (Section.credentials.nodup_names keysAfter) known kept
  rw [Keyring.get?_absorb_change keys change, held]
  rintro other (before | after) named holds
  · exact unnamed (named ▸ congrArg Credential.id
      (Keyring.eq_of_mem_revisions valuesBefore before known holds listed))
  · exact unnamed (named ▸ congrArg Credential.id
      (Keyring.eq_of_mem_revisions valuesAfter after kept holds listed))

/-- What a store answers by name for an item that stays is the same after any events of the
reload. -/
theorem answer_midway {σ α β : Type} [DecidableEq α] {store : Store σ α} (query : store.Query β)
    (keysBefore : previous.DistinctKeys) (keysAfter : next.DistinctKeys)
    (drawn : events ⊆ previous.diff next) {item : α} (known : item ∈ store.part.items previous)
    (kept : item ∈ store.part.items next) :
    query.answer (store.state (midway previous events)) (store.part.name item) =
      query.answer (store.state (loaded previous)) (store.part.name item) := by
  refine store.state_applyAll_induction
    (fun state => query.answer state (store.part.name item) =
      query.answer (store.state (loaded previous)) (store.part.name item)) drawn rfl ?_
  intro event change state same
  have unnamed := change.id_ne _ (store.part.nodup_names keysBefore)
    (store.part.nodup_names keysAfter) known kept
  rw [query.answer_absorb_of_ne change unnamed, same]

end Bystanders

/-- After any first part of a reload, granted or not, the resources that stay as they are are
served as before: routes at their paths, credentials by their values, and bindings and mock targets
by their names. -/
theorem served_midway {previous next : Manifest}
    (keysBefore : previous.DistinctKeys) (slotsBefore : previous.DistinctSlots)
    (valuesBefore : previous.values.Nodup)
    (keysAfter : next.DistinctKeys) (slotsAfter : next.DistinctSlots)
    (valuesAfter : next.values.Nodup)
    {events : List Event} (initial : events <+: previous.diff next) :
    (∀ route ∈ previous.routes, route ∈ next.routes →
        (midway previous events).routes.get? route.sourcePath route.host = some route) ∧
      (∀ credential ∈ previous.credentials, credential ∈ next.credentials →
        ∀ value ∈ credential.revisions,
          (midway previous events).keys.get? value = some credential) ∧
      (∀ binding ∈ previous.bindings, binding ∈ next.bindings →
        (midway previous events).grants.contains binding.id = true ∧
          ∀ credential path, (midway previous events).grants.get? binding.id credential path =
            (loaded previous).grants.get? binding.id credential path) ∧
      ∀ target ∈ previous.mockTargets, target ∈ next.mockTargets →
        ∀ path method, (midway previous events).mocks.get? target.id path method =
          (loaded previous).mocks.get? target.id path method := by
  have drawn : events ⊆ previous.diff next := initial.subset
  refine ⟨?_, ?_, ?_, ?_⟩
  · intro route known kept
    exact routes_midway keysBefore slotsBefore keysAfter slotsAfter drawn known kept
  · intro credential known kept value listed
    exact keys_midway keysBefore valuesBefore keysAfter valuesAfter drawn known kept listed
  · intro binding known kept
    constructor
    · have shows := Grants.presence_shows_loaded (Section.bindings.nodup_names keysBefore)
      exact (answer_midway Grants.presence keysBefore keysAfter drawn known kept).trans
        (shows.listed binding known)
    · intro credential path
      exact answer_midway (Grants.permission credential path) keysBefore keysAfter drawn known kept
  · intro target known kept path method
    exact answer_midway (Mocks.response path method) keysBefore keysAfter drawn known kept

/-- A refused move leaves the guarded route beside it in service. -/
theorem served_midway_guarded :
    ((loaded (guardedBeside "/a" "/b")).applyAll firstOfSwap).1 = 1 ∧
      (midway (guardedBeside "/a" "/b") firstOfSwap).routes.get? "/c" "" =
        guarded.routes.head? ∧
      (midway (guardedBeside "/a" "/b") firstOfSwap).keys.get? "x" =
        guarded.credentials.head? ∧
      (midway (guardedBeside "/a" "/b") firstOfSwap).grants.contains ⟨"default", "callers"⟩ =
        true ∧
      (midway (guardedBeside "/a" "/b") firstOfSwap).mocks.get? ⟨"default", "canned"⟩ "/" "GET" =
        some canned := by
  have initial : firstOfSwap <+: (guardedBeside "/a" "/b").diff (guardedBeside "/b" "/a") :=
    List.take_prefix ..
  obtain ⟨routes, credentials, bindings, targets⟩ := served_midway (by decide +kernel)
    (by decide +kernel) (by decide +kernel) (by decide +kernel) (by decide +kernel)
    (by decide +kernel) initial
  refine ⟨by decide +kernel, ?_, ?_, ?_, ?_⟩
  · exact routes _ (List.mem_cons_self ..) (List.mem_cons_self ..)
  · exact credentials _ (List.mem_singleton_self _) (List.mem_singleton_self _) "x"
      (List.mem_singleton_self _)
  · exact (bindings _ (List.mem_singleton_self _) (List.mem_singleton_self _)).1
  · rw [targets _ (List.mem_singleton_self _) (List.mem_singleton_self _)]
    decide +kernel

end Gateway

end Tollgate
