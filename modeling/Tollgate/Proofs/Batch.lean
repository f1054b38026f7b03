import Tollgate.Gateway.Basic

/-!
# Batches of events

A batch runs over a state that answers each event with its next version or with a refusal, and
goes on past refusals.  Every store of a gateway is such a state of its own, and so is the gateway.
-/

namespace Tollgate

universe u

namespace Batch

variable {σ : Type u} (react : σ → Event → Except Refusal σ)

/-- The state after one event; a refusal keeps it. -/
def absorb (state : σ) (event : Event) : σ :=
  match react state event with
  | .ok next => next
  | .error _ => state

/-- The state after a batch. -/
def final (state : σ) (events : List Event) : σ :=
  events.foldl (absorb react) state

/-- The events of a batch that are refused, in their order. -/
def refused : σ → List Event → List Event
  | _, [] => []
  | state, event :: rest =>
      match react state event with
      | .ok next => refused next rest
      | .error _ => event :: refused state rest

@[simp]
theorem final_nil (state : σ) : final react state [] = state :=
  rfl

@[simp]
theorem final_cons (state : σ) (event : Event) (rest : List Event) :
    final react state (event :: rest) = final react (absorb react state event) rest :=
  rfl

@[simp]
theorem refused_nil (state : σ) : refused react state [] = [] :=
  rfl

theorem final_append (state : σ) (first second : List Event) :
    final react state (first ++ second) = final react (final react state first) second :=
  List.foldl_append

theorem refused_append (state : σ) (first second : List Event) :
    refused react state (first ++ second) =
      refused react state first ++ refused react (final react state first) second := by
  induction first generalizing state with
  | nil => rfl
  | cons event rest ih =>
      simp only [List.cons_append, refused, final_cons, absorb]
      cases react state event with
      | ok next => exact ih next
      | error refusal => exact congrArg (event :: ·) (ih state)

variable {react}

theorem absorb_of_ok {state next : σ} {event : Event} (granted : react state event = .ok next) :
    absorb react state event = next := by
  simp only [absorb, granted]

/-- What holds of a state and of whatever it grants holds after the event. -/
theorem absorb_keeps {motive : σ → Prop} {state : σ} {event : Event} (before : motive state)
    (granted : ∀ next, react state event = .ok next → motive next) :
    motive (absorb react state event) := by
  cases answer : react state event with
  | ok next =>
      rw [absorb_of_ok answer]
      exact granted next answer
  | error refusal =>
      simp only [absorb, answer]
      exact before

/-- What each event of a batch keeps holds after the batch. -/
theorem final_keeps {motive : σ → Prop} {state : σ} {events : List Event} (before : motive state)
    (keeps : ∀ event ∈ events, ∀ state, motive state → motive (absorb react state event)) :
    motive (final react state events) := by
  induction events generalizing state with
  | nil => exact before
  | cons event rest ih =>
      apply ih
      · exact keeps event List.mem_cons_self state before
      · intro later member
        exact keeps later (List.mem_cons_of_mem event member)

theorem refused_cons_of_ok {state next : σ} {event : Event}
    (granted : react state event = .ok next) (rest : List Event) :
    refused react state (event :: rest) = refused react next rest := by
  simp only [refused, granted]

theorem refused_cons_of_error {state : σ} {event : Event} {refusal : Refusal}
    (denied : react state event = .error refusal) (rest : List Event) :
    refused react state (event :: rest) = event :: refused react state rest := by
  simp only [refused, denied]

/-- The events of a first item, if it has one, come before those of the rest. -/
theorem filterMap_cons_of_ok {α : Type} {state next : σ} {eventOf : α → Option Event} {item : α}
    (granted : (eventOf item).elim (.ok state) (react state) = .ok next) (rest : List α) :
    refused react state ((item :: rest).filterMap eventOf) =
        refused react next (rest.filterMap eventOf) ∧
      final react state ((item :: rest).filterMap eventOf) =
        final react next (rest.filterMap eventOf) := by
  rw [List.filterMap_cons]
  cases caused : eventOf item with
  | none =>
      rw [caused, Option.elim_none] at granted
      cases granted
      exact ⟨rfl, rfl⟩
  | some event =>
      rw [caused, Option.elim_some] at granted
      constructor
      · exact refused_cons_of_ok granted _
      · rw [final_cons, absorb_of_ok granted]

/-- Events that a state ignores can be left out of a batch. -/
theorem final_filter {concerns : Event → Bool}
    (ignores : ∀ state event, concerns event = false → react state event = .ok state)
    (state : σ) (events : List Event) :
    final react state (events.filter concerns) = final react state events := by
  induction events generalizing state with
  | nil => rfl
  | cons event rest ih =>
      rw [List.filter_cons, final_cons]
      cases relevant : concerns event with
      | true =>
          rw [if_pos rfl, final_cons]
          exact ih (absorb react state event)
      | false =>
          rw [if_neg Bool.false_ne_true, absorb_of_ok (ignores state event relevant)]
          exact ih state

theorem refused_filter {concerns : Event → Bool}
    (ignores : ∀ state event, concerns event = false → react state event = .ok state)
    (state : σ) (events : List Event) :
    refused react state (events.filter concerns) = refused react state events := by
  induction events generalizing state with
  | nil => rfl
  | cons event rest ih =>
      rw [List.filter_cons]
      cases relevant : concerns event with
      | true =>
          rw [if_pos rfl]
          cases answer : react state event with
          | ok next => rw [refused_cons_of_ok answer, refused_cons_of_ok answer, ih]
          | error refusal => rw [refused_cons_of_error answer, refused_cons_of_error answer, ih]
      | false =>
          rw [if_neg Bool.false_ne_true, refused_cons_of_ok (ignores state event relevant)]
          exact ih state

/-- When an event says by itself whether it is refused, those that say so are refused. -/
theorem refused_eq_filter {bad : Event → Bool} {events : List Event}
    (telling : ∀ event ∈ events, ∀ state,
      (∃ refusal, react state event = .error refusal) ↔ bad event = true)
    (state : σ) : refused react state events = events.filter bad := by
  induction events generalizing state with
  | nil => rfl
  | cons event rest ih =>
      rw [List.forall_mem_cons] at telling
      cases answer : react state event with
      | ok next =>
          have good : ¬bad event = true := by
            intro shown
            obtain ⟨refusal, denied⟩ := (telling.1 state).mpr shown
            rw [answer] at denied
            contradiction
          rw [refused_cons_of_ok answer, List.filter_cons_of_neg good, ih telling.2]
      | error refusal =>
          have shown : bad event = true := (telling.1 state).mp ⟨refusal, answer⟩
          rw [refused_cons_of_error answer, List.filter_cons_of_pos shown, ih telling.2]

end Batch

namespace Gateway

/-- The events of a batch that a gateway refuses. -/
def refused (gateway : Gateway) (events : List Event) : List Event :=
  Batch.refused apply gateway events

/-- A batch counts its refused events and ends in the state that the others leave. -/
theorem applyAll_eq (gateway : Gateway) (events : List Event) :
    gateway.applyAll events =
      ((gateway.refused events).length, Batch.final apply gateway events) := by
  induction events generalizing gateway with
  | nil => rfl
  | cons event rest ih =>
      rw [applyAll, refused, Batch.final_cons]
      cases answer : gateway.apply event with
      | ok next =>
          simp only [Batch.refused_cons_of_ok answer, Batch.absorb_of_ok answer]
          exact ih next
      | error refusal =>
          simp only [Batch.refused_cons_of_error answer, Batch.absorb, answer, ih]
          rfl

end Gateway

end Tollgate
