import Tollgate.Proofs.Sections

/-!
# A gateway store by store

An event concerns the store of its resource's kind and no other, and recorded traffic not at all.
So a batch acts on each store as the batch of that store's own events, and the refused events are
those that the stores refuse.
-/

namespace Tollgate

universe u

/-- What a store does with the resources of its kind. -/
structure Reactions (σ : Type u) (α : Type) where
  add : σ → α → Except Refusal σ
  update : σ → α → α → Except Refusal σ
  delete : σ → α → Except Refusal σ

namespace Section

variable {σ : Type u} {α : Type} (part : Section α) (reactions : Reactions σ α)

/-- What an event does to the store of a section; events of other kinds do nothing. -/
def react (state : σ) : Event → Except Refusal σ
  | .added resource =>
      match part.unwrap? resource with
      | some item => reactions.add state item
      | none => .ok state
  | .updated old new =>
      match part.unwrap? new, part.unwrap? old with
      | some new, some old => reactions.update state old new
      | some _, none => .error (.kindMismatch old.kind part.kind)
      | none, _ => .ok state
  | .deleted resource =>
      match part.unwrap? resource with
      | some item => reactions.delete state item
      | none => .ok state

theorem react_of_foreign (state : σ) (event : Event)
    (foreign : event.concerns part.kind = false) :
    part.react reactions state event = .ok state := by
  have missed : part.unwrap? event.resource = none :=
    part.unwrap?_eq_none (of_decide_eq_false foreign)
  cases event with
  | added resource =>
      change part.unwrap? resource = none at missed
      simp only [react, missed]
  | updated old new =>
      change part.unwrap? new = none at missed
      simp only [react, missed]
  | deleted resource =>
      change part.unwrap? resource = none at missed
      simp only [react, missed]

@[simp]
theorem react_added (state : σ) (item : α) :
    part.react reactions state (.added (part.wrap item)) = reactions.add state item := by
  simp only [react, part.unwrap?_wrap]

@[simp]
theorem react_updated (state : σ) (old new : α) :
    part.react reactions state (.updated (part.wrap old) (part.wrap new)) =
      reactions.update state old new := by
  simp only [react, part.unwrap?_wrap]

@[simp]
theorem react_deleted (state : σ) (item : α) :
    part.react reactions state (.deleted (part.wrap item)) = reactions.delete state item := by
  simp only [react, part.unwrap?_wrap]

end Section

/-- Routes move only where no other route is in the way. -/
def Routes.reactions : Reactions Routes Route where
  add routes route := .ok (routes.set route)
  update := Routes.update
  delete routes route := .ok (routes.delete route).2

/-- Bindings are never refused. -/
def Grants.reactions : Reactions Grants Binding where
  add grants binding := .ok (grants.set binding)
  update grants old new := .ok (Gateway.updateBinding grants old new)
  delete grants binding := .ok (grants.delete binding.id).2

/-- Credentials are refused only on removal. -/
def Keyring.reactions : Reactions Keyring Credential where
  add keys credential := .ok (keys.set credential)
  update keys old new := .ok (keys.update old new)
  delete keys credential := (keys.delete credential).map (·.2)

/-- Mock targets are refused without routes. -/
def Mocks.reactions : Reactions Mocks MockTarget where
  add := Mocks.set
  update := Gateway.updateMock
  delete mocks target := .ok (mocks.delete target.id).2

namespace Gateway

/-- An event goes to the store of its resource's kind. -/
theorem apply_eq (gateway : Gateway) (event : Event) :
    gateway.apply event =
      match event.resource.kind with
      | .route =>
          (Section.routes.react Routes.reactions gateway.routes event).map
            ({ gateway with routes := · })
      | .binding =>
          (Section.bindings.react Grants.reactions gateway.grants event).map
            ({ gateway with grants := · })
      | .credential =>
          (Section.credentials.react Keyring.reactions gateway.keys event).map
            ({ gateway with keys := · })
      | .mockTarget =>
          (Section.mockTargets.react Mocks.reactions gateway.mocks event).map
            ({ gateway with mocks := · }) := by
  cases event with
  | added resource => cases resource <;> rfl
  | updated old new => cases new <;> cases old <;> rfl
  | deleted resource =>
      cases resource with
      | route route => rfl
      | binding binding => rfl
      | mockTarget target => rfl
      | credential credential =>
          change (gateway.keys.delete credential >>= fun removed =>
              .ok { gateway with keys := removed.2 }) =
            ((gateway.keys.delete credential).map (·.2)).map _
          cases gateway.keys.delete credential <;> rfl

private theorem map_eq_ok {α β : Type} {change : α → β} {answer : Except Refusal α} {result : β}
    (granted : answer.map change = .ok result) : ∃ value, change value = result := by
  cases answer with
  | error refusal => contradiction
  | ok value => exact ⟨value, Except.ok.inj granted⟩

/-- An event leaves the stores of other kinds, and the traffic, as they were. -/
theorem apply_frame {gateway next : Gateway} {event : Event}
    (granted : gateway.apply event = .ok next) :
    (event.resource.kind ≠ .route → next.routes = gateway.routes) ∧
      (event.resource.kind ≠ .binding → next.grants = gateway.grants) ∧
      (event.resource.kind ≠ .credential → next.keys = gateway.keys) ∧
      (event.resource.kind ≠ .mockTarget → next.mocks = gateway.mocks) ∧
      next.traffic = gateway.traffic := by
  rw [apply_eq] at granted
  cases kind : event.resource.kind <;> rw [kind] at granted <;>
    rcases map_eq_ok granted with ⟨_, rfl⟩ <;> simp

end Gateway

/-- A store of a gateway, with the section of manifests that it holds. -/
structure Store (σ : Type) (α : Type) where
  part : Section α
  reactions : Reactions σ α
  state : Gateway → σ
  apply_own : ∀ gateway event, event.resource.kind = part.kind →
    (gateway.apply event).map state = part.react reactions (state gateway) event
  apply_foreign : ∀ gateway event next, event.resource.kind ≠ part.kind →
    gateway.apply event = .ok next → state next = state gateway

namespace Store

/-- The routes of a gateway. -/
def routes : Store Routes Route where
  part := .routes
  reactions := Routes.reactions
  state := Gateway.routes
  apply_own gateway event own := by
    rw [Gateway.apply_eq, own]
    change ((Section.routes.react _ _ event).map _).map _ = _
    cases Section.routes.react Routes.reactions gateway.routes event <;> rfl
  apply_foreign gateway event next foreign granted := (Gateway.apply_frame granted).1 foreign

/-- The bindings of a gateway. -/
def grants : Store Grants Binding where
  part := .bindings
  reactions := Grants.reactions
  state := Gateway.grants
  apply_own gateway event own := by
    rw [Gateway.apply_eq, own]
    change ((Section.bindings.react _ _ event).map _).map _ = _
    cases Section.bindings.react Grants.reactions gateway.grants event <;> rfl
  apply_foreign gateway event next foreign granted := (Gateway.apply_frame granted).2.1 foreign

/-- The credentials of a gateway. -/
def keys : Store Keyring Credential where
  part := .credentials
  reactions := Keyring.reactions
  state := Gateway.keys
  apply_own gateway event own := by
    rw [Gateway.apply_eq, own]
    change ((Section.credentials.react _ _ event).map _).map _ = _
    cases Section.credentials.react Keyring.reactions gateway.keys event <;> rfl
  apply_foreign gateway event next foreign granted := (Gateway.apply_frame granted).2.2.1 foreign

/-- The mock targets of a gateway. -/
def mocks : Store Mocks MockTarget where
  part := .mockTargets
  reactions := Mocks.reactions
  state := Gateway.mocks
  apply_own gateway event own := by
    rw [Gateway.apply_eq, own]
    change ((Section.mockTargets.react _ _ event).map _).map _ = _
    cases Section.mockTargets.react Mocks.reactions gateway.mocks event <;> rfl
  apply_foreign gateway event next foreign granted := (Gateway.apply_frame granted).2.2.2.1 foreign

variable {σ α : Type} (store : Store σ α)

/-- The reaction of a store to an event of any kind. -/
def react : σ → Event → Except Refusal σ :=
  store.part.react store.reactions

theorem react_of_foreign (state : σ) (event : Event)
    (foreign : event.concerns store.part.kind = false) : store.react state event = .ok state :=
  store.part.react_of_foreign store.reactions state event foreign

theorem state_absorb (gateway : Gateway) (event : Event) :
    store.state (Batch.absorb Gateway.apply gateway event) =
      Batch.absorb store.react (store.state gateway) event := by
  cases own : event.concerns store.part.kind with
  | true =>
      have answer := store.apply_own gateway event (of_decide_eq_true own)
      rw [Batch.absorb, Batch.absorb, react, ← answer]
      cases gateway.apply event <;> rfl
  | false =>
      rw [Batch.absorb_of_ok (store.react_of_foreign _ event own)]
      cases answer : gateway.apply event with
      | ok next =>
          rw [Batch.absorb_of_ok answer]
          exact store.apply_foreign gateway event next (of_decide_eq_false own) answer
      | error refusal => simp only [Batch.absorb, answer]

/-- A batch acts on a store as a batch of the store. -/
theorem state_applyAll_eq_final (gateway : Gateway) (events : List Event) :
    store.state (gateway.applyAll events).2 =
      Batch.final store.react (store.state gateway) events := by
  rw [Gateway.applyAll_eq]
  induction events generalizing gateway with
  | nil => rfl
  | cons event rest ih =>
      rw [Batch.final_cons, Batch.final_cons, ← state_absorb]
      exact ih (Batch.absorb Gateway.apply gateway event)

/-- Only the store's own events count. -/
theorem state_applyAll (gateway : Gateway) (events : List Event) :
    store.state (gateway.applyAll events).2 =
      Batch.final store.react (store.state gateway)
        (events.filter (Event.concerns store.part.kind)) := by
  rw [state_applyAll_eq_final, Batch.final_filter store.react_of_foreign]

/-- The refused events of a kind are those that the store of the kind refuses. -/
theorem filter_refused (gateway : Gateway) (events : List Event) :
    (gateway.refused events).filter (Event.concerns store.part.kind) =
      Batch.refused store.react (store.state gateway)
        (events.filter (Event.concerns store.part.kind)) := by
  rw [Batch.refused_filter store.react_of_foreign, Gateway.refused]
  induction events generalizing gateway with
  | nil => rfl
  | cons event rest ih =>
      have later := store.state_absorb gateway event
      cases own : event.concerns store.part.kind with
      | true =>
          have answer := store.apply_own gateway event (of_decide_eq_true own)
          change _ = store.react (store.state gateway) event at answer
          cases granted : gateway.apply event with
          | ok next =>
              rw [granted] at answer
              rw [Batch.refused_cons_of_ok granted, Batch.refused_cons_of_ok answer.symm]
              exact ih next
          | error refusal =>
              rw [granted] at answer
              rw [Batch.refused_cons_of_error granted, Batch.refused_cons_of_error answer.symm,
                List.filter_cons_of_pos own]
              exact congrArg (event :: ·) (ih gateway)
      | false =>
          rw [Batch.refused_cons_of_ok (store.react_of_foreign _ event own)]
          cases granted : gateway.apply event with
          | ok next =>
              rw [Batch.refused_cons_of_ok granted, ih next,
                store.apply_foreign gateway event next (of_decide_eq_false own) granted]
          | error refusal =>
              rw [Batch.refused_cons_of_error granted, List.filter_cons_of_neg (by simp [own])]
              exact ih gateway

/-- Loading a manifest adds the items of its section to the store, one after the other. -/
theorem state_loadAll (gateway : Gateway) (manifest : Manifest) :
    store.state (gateway.loadAll manifest).2 =
      Batch.final store.react (store.state gateway)
        ((store.part.items manifest).map fun item => .added (store.part.wrap item)) := by
  rw [Gateway.loadAll, state_applyAll, store.part.filter_added]

end Store

namespace Gateway

/-- A batch never touches the traffic. -/
theorem traffic_applyAll (gateway : Gateway) (events : List Event) :
    (gateway.applyAll events).2.traffic = gateway.traffic := by
  rw [applyAll_eq]
  induction events generalizing gateway with
  | nil => rfl
  | cons event rest ih =>
      rw [Batch.final_cons, ih]
      cases granted : gateway.apply event with
      | ok next =>
          rw [Batch.absorb_of_ok granted]
          exact (apply_frame granted).2.2.2.2
      | error refusal => simp only [Batch.absorb, granted]

end Gateway

end Tollgate
