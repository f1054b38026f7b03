import Tollgate.Proofs.Reload.Difference
import Tollgate.Proofs.Reload.Keyed
import Tollgate.Proofs.Reload.Routes
import Tollgate.Source.Watch

/-!
# Runs of a watch

A watch never builds its stores anew.  It takes them from one manifest to the next by the events
between the two.  As long as none of these is refused, the stores answer as if they had just been
loaded with the manifest that was taken in last.  A file that has not changed yields no events,
provided that no two of its resources share a key.
-/

namespace Tollgate

/-! ## Stores that hold a manifest -/

namespace Gateway

/-- Two gateways that resolve, permit and mock alike. -/
structure Agrees (left right : Gateway) : Prop where
  routes : ∀ path host, left.routes.get? path host = right.routes.get? path host
  count : left.routes.count = right.routes.count
  permissions : ∀ id credential path,
    left.grants.get? id credential path = right.grants.get? id credential path
  bindings : ∀ id, left.grants.contains id = right.grants.contains id
  mocks : ∀ id path method, left.mocks.get? id path method = right.mocks.get? id path method

/-- A gateway has the routes of a manifest in their slots, and its bindings and mock targets under
their names. -/
structure Holds (gateway : Gateway) (manifest : Manifest) : Prop where
  routes : ∃ table : Routes.Table, gateway.routes.Represents table ∧ table.Lists manifest.routes
  permissions : ∀ credential path,
    (Grants.permission credential path).Shows gateway.grants manifest.bindings
  bindings : Grants.presence.Shows gateway.grants manifest.bindings
  mocks : ∀ path method, (Mocks.response path method).Shows gateway.mocks manifest.mockTargets

/-- Gateways that hold one manifest answer alike. -/
theorem Holds.agrees {left right : Gateway} {manifest : Manifest} (holds : left.Holds manifest)
    (held : right.Holds manifest) : left.Agrees right := by
  obtain ⟨table, represents, lists⟩ := holds.routes
  obtain ⟨other, represented, listed⟩ := held.routes
  have same : ∀ slot, table.get? slot = other.get? slot := by
    intro slot
    apply Option.ext
    intro route
    rw [lists, listed]
  obtain ⟨routes, count⟩ := represented.get?_congr represents same
  exact {
    routes
    count
    permissions := fun id credential path =>
      (holds.permissions credential path).congr (held.permissions credential path) id
    bindings := holds.bindings.congr held.bindings
    mocks := fun id path method =>
      (holds.mocks path method).congr (held.mocks path method) id }

variable {previous next manifest : Manifest} {gateway : Gateway}

theorem holds_loaded (keys : manifest.DistinctKeys) (slots : manifest.DistinctSlots) :
    (loaded manifest).Holds manifest where
  routes := ⟨_, Routes.represents_loaded manifest, Routes.Table.lists_fill slots⟩
  permissions := Grants.permission_shows_loaded (Section.bindings.nodup_names keys)
  bindings := Grants.presence_shows_loaded (Section.bindings.nodup_names keys)
  mocks := Mocks.response_shows_loaded (Section.mockTargets.nodup_names keys)

/-- A reload without refusals leads to a gateway that holds the next manifest. -/
theorem Holds.reload (holds : gateway.Holds previous)
    (keysBefore : previous.DistinctKeys) (slotsBefore : previous.DistinctSlots)
    (keysAfter : next.DistinctKeys) (slotsAfter : next.DistinctSlots)
    (granted : (gateway.applyAll (previous.diff next)).1 = 0) :
    (gateway.applyAll (previous.diff next)).2.Holds next where
  routes := by
    obtain ⟨table, represents, lists⟩ := holds.routes
    obtain ⟨refusals, settled⟩ := represents.reload lists
      (Routes.Plan.ofManifests keysBefore slotsBefore keysAfter slotsAfter)
    have order := refusals.mp (Store.routes.refused_changes_of_granted granted)
    obtain ⟨moved, represented, places⟩ := settled order
    have state : (gateway.applyAll (previous.diff next)).2.routes =
        Batch.final Routes.answer gateway.routes
          (Section.routes.changes previous.routes next.routes) :=
      Store.routes.state_diff gateway previous next
    exact ⟨moved, state.symm ▸ represented, places⟩
  permissions credential path :=
    (holds.permissions credential path).applyAll keysBefore keysAfter granted
  bindings := holds.bindings.applyAll keysBefore keysAfter granted
  mocks path method := (holds.mocks path method).applyAll keysBefore keysAfter granted

end Gateway

/-! ## Runs -/

/-- The manifests that a source takes in while its files change. -/
def Source.loads (source : Source) (history : List Files) : List Manifest :=
  history.filterMap fun files => (source.load files).toOption

namespace Watch

open Gateway

/-- How many events are refused, reload by reload. -/
def refusals (watch : Watch) : List Files → List Nat
  | [] => []
  | files :: rest =>
      match watch.refresh? files with
      | .ok (refused, next) => refused :: next.refusals rest
      | .error _ => watch.refusals rest

/-- A watch whose gateway holds what its source took in last. -/
structure InStep (watch : Watch) : Prop where
  keys : watch.source.current.DistinctKeys
  slots : watch.source.current.DistinctSlots
  holds : watch.gateway.Holds watch.source.current

/-- A watch after its source has taken in a manifest. -/
def take (watch : Watch) (manifest : Manifest) : Watch where
  source := { watch.source with current := manifest }
  gateway := (watch.gateway.applyAll (watch.source.current.diff manifest)).2

variable {watch : Watch} {files : Files}

theorem refresh?_of_ok {manifest : Manifest} (loads : watch.source.load files = .ok manifest) :
    watch.refresh? files =
      .ok ((watch.gateway.applyAll (watch.source.current.diff manifest)).1,
        watch.take manifest) := by
  simp only [refresh?, Source.reload, loads, bind, Except.bind, pure, Except.pure, take]

theorem refresh?_of_error {fault : LoadFault} (fails : watch.source.load files = .error fault) :
    watch.refresh? files = .error fault := by
  simp only [refresh?, Source.reload, fails, bind, Except.bind]

/-- A reload without refusals keeps a watch in step. -/
theorem InStep.take (inStep : watch.InStep) {manifest : Manifest} (keys : manifest.DistinctKeys)
    (slots : manifest.DistinctSlots)
    (granted : (watch.gateway.applyAll (watch.source.current.diff manifest)).1 = 0) :
    (watch.take manifest).InStep where
  keys := keys
  slots := slots
  holds := inStep.holds.reload inStep.keys inStep.slots keys slots granted

/-- A run without refusals keeps a watch in step, and ends with the manifest taken in last. -/
theorem InStep.run (inStep : watch.InStep) {history : List Files}
    (distinct : ∀ manifest ∈ watch.source.loads history,
      manifest.DistinctKeys ∧ manifest.DistinctSlots)
    (granted : ∀ refused ∈ watch.refusals history, refused = 0) :
    (watch.run history).InStep ∧
      (watch.run history).source.current =
        (watch.source.loads history).getLast?.getD watch.source.current := by
  induction history generalizing watch with
  | nil => exact ⟨inStep, rfl⟩
  | cons files rest ih =>
      rw [run_cons, refresh]
      rw [refusals] at granted
      cases loads : watch.source.load files with
      | error fault =>
          -- neither the watch nor the list of manifests takes notice
          have skipped : watch.source.loads (files :: rest) = watch.source.loads rest :=
            List.filterMap_cons_none (by rw [loads]; rfl)
          rw [refresh?_of_error loads] at granted ⊢
          rw [skipped] at distinct ⊢
          exact ih inStep distinct granted
      | ok manifest =>
          have taken : watch.source.loads (files :: rest) =
              manifest :: (watch.take manifest).source.loads rest :=
            List.filterMap_cons_some (by rw [loads]; rfl)
          rw [refresh?_of_ok loads] at granted ⊢
          rw [taken] at distinct ⊢
          obtain ⟨⟨keys, slots⟩, later⟩ := List.forall_mem_cons.mp distinct
          obtain ⟨unrefused, onward⟩ := List.forall_mem_cons.mp granted
          obtain ⟨stays, ends⟩ := ih (inStep.take keys slots unrefused) later onward
          refine ⟨stays, ends.trans ?_⟩
          rw [List.getLast?_cons, Option.getD_some]
          rfl

/-- A new watch is in step with the empty manifest. -/
theorem inStep_fresh {source : Source} (unread : source.current = .empty) :
    ({ source } : Watch).InStep where
  keys := unread ▸ List.nodup_nil
  slots := unread ▸ List.nodup_nil
  holds := by
    have keys : Manifest.empty.DistinctKeys := List.nodup_nil
    have slots : Manifest.empty.DistinctSlots := List.nodup_nil
    rw [unread]
    exact holds_loaded keys slots

/-- A watch that starts afresh and is never refused an event answers like a gateway that has just
been loaded with what the source took in last. -/
theorem run_agrees {source : Source} (unread : source.current = .empty) {history : List Files}
    (distinct : ∀ manifest ∈ source.loads history,
      manifest.DistinctKeys ∧ manifest.DistinctSlots)
    (granted : ∀ refused ∈ ({ source } : Watch).refusals history, refused = 0) :
    (({ source } : Watch).run history).gateway.Agrees
        (loaded (({ source } : Watch).run history).source.current) ∧
      (({ source } : Watch).run history).source.current =
        (source.loads history).getLast?.getD .empty := by
  obtain ⟨inStep, ends⟩ := (inStep_fresh unread).run distinct granted
  exact ⟨inStep.holds.agrees (holds_loaded inStep.keys inStep.slots), unread ▸ ends⟩

/-- A manifest with one route. -/
def oneRoute (path : String) : Manifest where
  routes := [{ id := ⟨"n", "a"⟩, sourcePath := path, backend := "b" }]

/-- A text as the only file, where the source looks for it. -/
def document (text : String) : Files :=
  .ofList [("m.toml", .file text)]

/-- A document with one route. -/
def oneRouteDocument (path : String) : Files :=
  document ("[[routes]]\nname=\"a\"\nnamespace=\"n\"\nsourcePath=\"" ++ path ++
    "\"\ntargetBackend=\"b\"")

/-- The document of a route that moves, with a torn version in between. -/
def moving : List Files :=
  [oneRouteDocument "/a", document "[[routes", oneRouteDocument "/b"]

/-- A watch follows a route that moves, past a version that does not load: the route answers where
it stands now, and nothing answers where it stood. -/
theorem run_agrees_moving :
    (({ source := { path := "m.toml" } } : Watch).run moving).gateway.Agrees
        (loaded (({ source := { path := "m.toml" } } : Watch).run moving).source.current) ∧
      (({ source := { path := "m.toml" } } : Watch).run moving).source.current =
        oneRoute "/b" ∧
      (({ source := { path := "m.toml" } } : Watch).run moving).gateway.routes.get? "/b" "" =
        some { id := ⟨"n", "a"⟩, sourcePath := "/b", backend := "b" } ∧
      (({ source := { path := "m.toml" } } : Watch).run moving).gateway.routes.get? "/a" "" =
        none := by
  have loads : Source.loads { path := "m.toml" } moving = [oneRoute "/a", oneRoute "/b"] := by
    decide +kernel
  have distinct : ∀ manifest ∈ Source.loads { path := "m.toml" } moving,
      manifest.DistinctKeys ∧ manifest.DistinctSlots := by
    rw [loads]
    decide +kernel
  obtain ⟨agrees, current⟩ := run_agrees rfl distinct (by decide +kernel)
  rw [loads] at current
  have there : (loaded (oneRoute "/b")).routes.get? "/b" "" =
      some { id := ⟨"n", "a"⟩, sourcePath := "/b", backend := "b" } := by decide +kernel
  have gone : (loaded (oneRoute "/b")).routes.get? "/a" "" = none := by decide +kernel
  refine ⟨agrees, current, ?_, ?_⟩
  · rw [agrees.routes, current]
    exact there
  · rw [agrees.routes, current]
    exact gone

/-! ## Files that do not change -/

/-- A file that has not changed yields no events exactly when no two of its resources differ under
one key, and then a reload changes nothing. -/
theorem refresh?_unchanged {watch : Watch} {files : Files}
    (unchanged : watch.source.load files = .ok watch.source.current) :
    (watch.source.current.diff watch.source.current = [] ↔ watch.source.current.OneOfEach) ∧
      (watch.source.current.OneOfEach → watch.refresh? files = .ok (0, watch)) := by
  refine ⟨Manifest.diff_self_eq_nil_iff, ?_⟩
  intro single
  rw [refresh?_of_ok unchanged, take, Manifest.diff_self_eq_nil_iff.mpr single]
  rfl

/-- Reading a document with one route again changes nothing. -/
theorem refresh?_unchanged_oneRoute :
    ({ source := { path := "m.toml", current := oneRoute "/a" },
       gateway := loaded (oneRoute "/a") } : Watch).refresh? (oneRouteDocument "/a") =
      .ok (0, { source := { path := "m.toml", current := oneRoute "/a" },
                gateway := loaded (oneRoute "/a") }) := by
  have distinct : (oneRoute "/a").DistinctKeys := by decide +kernel
  exact (refresh?_unchanged (by decide +kernel)).2 distinct.oneOfEach

/-- A manifest with two routes of one name, on different hosts. -/
def twinRoutes : Manifest where
  routes :=
    [{ id := ⟨"n", "a"⟩, sourcePath := "/", backend := "b" },
      { id := ⟨"n", "a"⟩, sourcePath := "/", sourceHost := some "x", backend := "b" }]

/-- A document with these routes. -/
def twinDocument : Files :=
  document ("[[routes]]\nname=\"a\"\nnamespace=\"n\"\nsourcePath=\"/\"\n" ++
    "targetBackend=\"b\"\n[[routes]]\nname=\"a\"\nnamespace=\"n\"\nsourcePath=\"/\"\n" ++
    "targetBackend=\"b\"\nsourceVirtualHost=\"x\"")

/-- Reading that document again yields an event, and it takes away one of the routes. -/
theorem reloaded_twinRoutes :
    Source.load { path := "m.toml" } twinDocument = .ok twinRoutes ∧
      twinRoutes.diff twinRoutes ≠ [] ∧
      (reloaded twinRoutes twinRoutes).routes.get? "/" "x" ≠
        (loaded twinRoutes).routes.get? "/" "x" := by
  refine ⟨?_, ?_, ?_⟩ <;> decide +kernel

end Watch

end Tollgate
