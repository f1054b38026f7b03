import Tollgate.Proofs.Gateway.Stores

/-!
# Events write by write

A store that is written in place is changed by one write after the other, and a refusal that comes
too late would leave the writes before it behind.  Here every event is spelled out as the writes
that it takes, in their order; carried out one by one they come to what the event answers with, and
to no change at all when it is refused.
-/

namespace Tollgate

/-- A part of a state, that can be read and put back. -/
structure Portion (σ τ : Type) where
  read : σ → τ
  put : σ → τ → σ
  put_read : ∀ state, put state (read state) = state

namespace Portion

def routes : Portion Gateway Routes where
  read := Gateway.routes
  put := ({ · with routes := · })
  put_read _ := rfl

def grants : Portion Gateway Grants where
  read := Gateway.grants
  put := ({ · with grants := · })
  put_read _ := rfl

def keys : Portion Gateway Keyring where
  read := Gateway.keys
  put := ({ · with keys := · })
  put_read _ := rfl

def mocks : Portion Gateway Mocks where
  read := Gateway.mocks
  put := ({ · with mocks := · })
  put_read _ := rfl

end Portion

/-- Programs that write to a store as they go, and that a refusal may cut short.  What was written
by then stays written. -/
abbrev Writing (σ : Type) :=
  ExceptT Refusal (StateM σ)

namespace Writing

variable {σ τ α β : Type}

/-- Carry out a program on a state: its result or the refusal that cut it short, and the state that
it leaves. -/
def perform (program : Writing σ α) (state : σ) : Except Refusal α × σ :=
  program.run.run state

theorem perform_bind (first : Writing σ α) (rest : α → Writing σ β) (state : σ) :
    (first >>= rest).perform state =
      match first.perform state with
      | (.ok value, after) => (rest value).perform after
      | (.error refusal, after) => (.error refusal, after) := by
  simp only [perform, ExceptT.run, StateT.run, bind, ExceptT.bind, ExceptT.mk, StateT.bind,
    ExceptT.bindCont]
  cases first state with
  | mk outcome after => cases outcome <;> rfl

@[simp]
theorem perform_pure (value : α) (state : σ) :
    (pure value : Writing σ α).perform state = (.ok value, state) :=
  rfl

@[simp]
theorem perform_get (state : σ) : (get : Writing σ σ).perform state = (.ok state, state) :=
  rfl

@[simp]
theorem perform_modify (write : σ → σ) (state : σ) :
    (modify write : Writing σ Unit).perform state = (.ok (), write state) :=
  rfl

@[simp]
theorem perform_throw (refusal : Refusal) (state : σ) :
    (throw refusal : Writing σ α).perform state = (.error refusal, state) :=
  rfl

/-- Write for each of some values. -/
def each (write : α → σ → σ) : List α → Writing σ Unit
  | [] => pure ()
  | value :: rest => do
      modify (write value)
      each write rest

/-- Write to a part of the state. -/
def within (part : Portion σ τ) (program : Writing τ Unit) : Writing σ Unit :=
  ExceptT.mk fun state =>
    let (outcome, changed) := program.perform (part.read state)
    (outcome, part.put state changed)

/-- The program leaves the state that a function answers with, and the state that it was carried
out on when the function refuses. -/
def Realizes (program : Writing σ Unit) (answer : σ → Except Refusal σ) : Prop :=
  ∀ state, program.perform state =
    match answer state with
    | .ok next => (.ok (), next)
    | .error refusal => (.error refusal, state)

theorem Realizes.congr {program : Writing σ Unit} {answer other : σ → Except Refusal σ}
    (realizes : program.Realizes answer) (same : ∀ state, other state = answer state) :
    program.Realizes other := by
  intro state
  rw [same]
  exact realizes state

theorem realizes_modify (write : σ → σ) :
    Realizes (modify write) fun state => .ok (write state) :=
  fun _ => rfl

theorem realizes_each (write : α → σ → σ) (values : List α) :
    Realizes (each write values) fun state =>
      .ok (values.foldl (fun state value => write value state) state) := by
  induction values with
  | nil => exact fun _ => rfl
  | cons value rest ih => exact fun state => ih (write value state)

theorem Realizes.within {program : Writing τ Unit} {answer : τ → Except Refusal τ}
    (realizes : program.Realizes answer) (part : Portion σ τ) :
    Realizes (within part program) fun state => (answer (part.read state)).map (part.put state) := by
  intro state
  have performed := realizes (part.read state)
  have outer : (Writing.within part program).perform state =
      ((program.perform (part.read state)).1,
        part.put state (program.perform (part.read state)).2) := rfl
  rw [outer, performed]
  dsimp only
  cases answer (part.read state) with
  | ok next => rfl
  | error refusal => exact congrArg (Except.error refusal, ·) (part.put_read state)

end Writing

open Writing

namespace Routes

/-- Look at the new slot; then clear the old one, if it is still the route's; then fill the new. -/
def move (old new : Route) : Writing Routes Unit := do
  match (← get).conflict? new with
  | some refusal => throw refusal
  | none =>
      if (← get).holds old then modify fun routes => (routes.clear old.address old.host).2
      modify (·.set new)

theorem realizes_move (old new : Route) : Realizes (move old new) (Routes.update · old new) := by
  intro routes
  rw [move, perform_bind]
  simp only [perform_get, Routes.update]
  cases routes.conflict? new with
  | some refusal => rfl
  | none =>
      rw [perform_bind]
      simp only [perform_get]
      split
      · rfl
      · rfl

end Routes

namespace Grants

/-- Give up the old name, if it changes; then load the binding. -/
def replace (old new : Binding) : Writing Grants Unit := do
  if old.id ≠ new.id then modify fun grants => (grants.delete old.id).2
  modify (·.set new)

theorem realizes_replace (old new : Binding) :
    Realizes (replace old new) fun grants => .ok (Gateway.updateBinding grants old new) := by
  intro grants
  simp only [replace, Gateway.updateBinding]
  by_cases kept : old.id = new.id
  · simp only [kept, ne_eq, not_true, if_false, if_true]
    rfl
  · simp only [kept, ne_eq, not_false_iff, if_false, if_true]
    rfl

end Grants

namespace Keyring

/-- Register the values of a credential one after the other. -/
def enroll (credential : Credential) : Writing Keyring Unit :=
  each (fun value keys => keys.register value credential) credential.revisions

theorem realizes_enroll (credential : Credential) :
    Realizes (enroll credential) fun keys => .ok (keys.set credential) :=
  realizes_each _ credential.revisions

/-- Walk two ascending lists of values side by side, with one write for each step. -/
def exchange (credential : Credential) : List String → List String → Writing Keyring Unit
  | [], [] => pure ()
  | old :: olds, [] => do
      modify (·.revoke old)
      exchange credential olds []
  | [], new :: news => do
      modify (·.register new credential)
      exchange credential [] news
  | old :: olds, new :: news =>
      if old = new then do
        modify (·.register new credential)
        exchange credential olds news
      else if old < new then do
        modify (·.revoke old)
        exchange credential olds (new :: news)
      else do
        modify (·.register new credential)
        exchange credential (old :: olds) news

theorem perform_exchange (credential : Credential) (olds news : List String) (keys : Keyring) :
    (exchange credential olds news).perform keys = (.ok (), keys.rotate credential olds news) := by
  induction keys, olds, news using rotate.induct credential with
  | case1 keys => rw [exchange, perform_pure, rotate]
  | case2 keys old olds ih =>
      rw [exchange, perform_bind, perform_modify, rotate]
      exact ih
  | case3 keys new news ih =>
      rw [exchange, perform_bind, perform_modify, rotate]
      exact ih
  | case4 keys olds old news ih =>
      rw [exchange, if_pos rfl, perform_bind, perform_modify, rotate, if_pos rfl]
      exact ih
  | case5 keys old olds new news differs less ih =>
      rw [exchange, if_neg differs, if_pos less, perform_bind, perform_modify, rotate,
        if_neg differs, if_pos less]
      exact ih
  | case6 keys old olds new news differs notLess ih =>
      rw [exchange, if_neg differs, if_neg notLess, perform_bind, perform_modify, rotate,
        if_neg differs, if_neg notLess]
      exact ih

theorem realizes_exchange (old new : Credential) :
    Realizes (exchange new (ascending old.revisions) (ascending new.revisions)) fun keys =>
      .ok (keys.update old new) :=
  perform_exchange new (ascending old.revisions) (ascending new.revisions)

/-- Look whether there are values; then revoke one after the other. -/
def withdraw (credential : Credential) : Writing Keyring Unit := do
  if credential.revisions = [] then throw (.noRevisions credential.id)
  each (fun value keys => keys.revoke value) credential.revisions

theorem revokeAll_snd (keys : Keyring) (values : List String) :
    (keys.revokeAll values).2 = values.foldl revoke keys := by
  induction values generalizing keys with
  | nil => rfl
  | cons value rest ih => exact ih (keys.revoke value)

theorem realizes_withdraw (credential : Credential) :
    Realizes (withdraw credential) fun keys => (keys.delete credential).map (·.2) := by
  intro keys
  simp only [withdraw, delete]
  split
  · rfl
  · rw [Except.map, revokeAll_snd]
    exact realizes_each (fun value keys => keys.revoke value) credential.revisions keys

end Keyring

namespace Mocks

/-- Look whether the target has a route; then load it. -/
def load (target : MockTarget) : Writing Mocks Unit := do
  if target.routes = [] then throw (.emptyMockTarget target.id)
  modify fun mocks => ⟨mocks.targets.insert target.id (target.routes.foldl place .empty)⟩

theorem realizes_load (target : MockTarget) : Realizes (load target) (set · target) := by
  intro mocks
  simp only [load, set]
  split
  · rfl
  · rfl

/-- Load a target; then give up its old name, if it changes. -/
def replace (old new : MockTarget) : Writing Mocks Unit := do
  load new
  if old.id ≠ new.id then modify fun mocks => (mocks.delete old.id).2

theorem realizes_replace (old new : MockTarget) :
    Realizes (replace old new) (Gateway.updateMock · old new) := by
  intro mocks
  rw [replace, perform_bind, realizes_load]
  simp only [Gateway.updateMock]
  cases mocks.set new with
  | error refusal => rfl
  | ok loaded =>
      by_cases kept : old.id = new.id
      · simp only [kept, ne_eq, not_true, if_false, if_true]
        rfl
      · simp only [kept, ne_eq, not_false_iff, if_false, if_true]
        rfl

end Mocks

namespace Gateway

/-- The writes of an event. -/
def enact : Event → Writing Gateway Unit
  | .added (.route route) => within .routes (modify (·.set route))
  | .added (.binding binding) => within .grants (modify (·.set binding))
  | .added (.credential credential) => within .keys (Keyring.enroll credential)
  | .added (.mockTarget target) => within .mocks (Mocks.load target)
  | .updated (.route old) (.route new) => within .routes (Routes.move old new)
  | .updated (.binding old) (.binding new) => within .grants (Grants.replace old new)
  | .updated (.credential old) (.credential new) =>
      within .keys
        (Keyring.exchange new (Keyring.ascending old.revisions) (Keyring.ascending new.revisions))
  | .updated (.mockTarget old) (.mockTarget new) => within .mocks (Mocks.replace old new)
  | .updated old new => throw (.kindMismatch old.kind new.kind)
  | .deleted (.route route) => within .routes (modify fun routes => (routes.delete route).2)
  | .deleted (.binding binding) =>
      within .grants (modify fun grants => (grants.delete binding.id).2)
  | .deleted (.credential credential) => within .keys (Keyring.withdraw credential)
  | .deleted (.mockTarget target) =>
      within .mocks (modify fun mocks => (mocks.delete target.id).2)

/-- The writes of an event leave what it answers with. -/
theorem realizes_enact (event : Event) : Realizes (enact event) (·.apply event) := by
  refine Realizes.congr ?_ (·.apply_eq event)
  cases event with
  | added resource =>
      cases resource with
      | route route => exact (realizes_modify (Routes.set · route)).within .routes
      | binding binding => exact (realizes_modify (Grants.set · binding)).within .grants
      | credential credential => exact (Keyring.realizes_enroll credential).within .keys
      | mockTarget target => exact (Mocks.realizes_load target).within .mocks
  | updated old new =>
      cases old <;> cases new
      case route.route old new => exact (Routes.realizes_move old new).within .routes
      case binding.binding old new => exact (Grants.realizes_replace old new).within .grants
      case credential.credential old new => exact (Keyring.realizes_exchange old new).within .keys
      case mockTarget.mockTarget old new => exact (Mocks.realizes_replace old new).within .mocks
      all_goals exact fun _ => rfl
  | deleted resource =>
      cases resource with
      | route route =>
          exact (realizes_modify fun routes => (Routes.delete routes route).2).within .routes
      | binding binding =>
          exact (realizes_modify fun grants => (Grants.delete grants binding.id).2).within .grants
      | credential credential => exact (Keyring.realizes_withdraw credential).within .keys
      | mockTarget target =>
          exact (realizes_modify fun mocks => (Mocks.delete mocks target.id).2).within .mocks

end Gateway

end Tollgate
