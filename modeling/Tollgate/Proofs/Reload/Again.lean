import Tollgate.Proofs.Gateway.Refusals
import Tollgate.Proofs.Reload.Watch
import Tollgate.Proofs.Store.NamedWrites

/-!
# Loads that repeat

A load that repeats writes every item over what the first load has left, losers over winners
included, and only then the winners over these.  Both times the last item that concerns an answer
decides it, so in the end a gateway answers as it did after the first load.
-/

namespace Tollgate

namespace Store

variable {σ α : Type} (store : Store σ α)

/-- An answer that the items of a manifest decide, or else leave alone, is not changed when they are
loaded once more. -/
theorem answer_loadAll_loadAll {β : Type} (answer : σ → β) {manifest : Manifest}
    {decided : Option β}
    (law : ∀ state, answer (store.fill state (store.part.items manifest)) =
      decided.getD (answer state))
    (gateway : Gateway) :
    answer (store.state ((gateway.loadAll manifest).2.loadAll manifest).2) =
      answer (store.state (gateway.loadAll manifest).2) := by
  rw [state_loadAll_eq_fill, state_loadAll_eq_fill, law, law]
  cases decided <;> rfl

end Store

/-! ## Store by store -/

namespace Routes

/-- Routes that are entered again come to stand where they stood. -/
theorem Table.get?_fill_fill (table : Table) (items : List Route)
    (slot : List String × String) :
    ((table.fill items).fill items).get? slot = (table.fill items).get? slot := by
  rw [get?_fill, get?_fill, ← Option.or_assoc, Option.or_self]

end Routes

namespace Mocks

theorem absorb_added (mocks : Mocks) (target : MockTarget) :
    Batch.absorb Store.mocks.react mocks (.added (.mockTarget target)) =
      mocks.write (.set target) := by
  have answer : Store.mocks.react mocks (.added (.mockTarget target)) = mocks.set target := rfl
  rw [Batch.absorb, answer, write]
  cases mocks.set target <;> rfl

/-- Of the targets of one name that have responses, the last is stored. -/
theorem targets_fill (mocks : Mocks) (items : List MockTarget) (id : ResourceName) :
    (Store.mocks.fill mocks items).targets.get? id =
      ((items.reverse.find? (counts id <| .set ·)).map
        fun target => some (target.routes.foldl place .empty)).getD (mocks.targets.get? id) := by
  have law (mocks : Mocks) (target : MockTarget) :
      (Batch.absorb Store.mocks.react mocks (.added (.mockTarget target))).targets.get? id =
        if counts id (.set target) then some (target.routes.foldl place .empty)
        else mocks.targets.get? id := by
    rw [absorb_added, targets_write]
    rfl
  simpa using Store.mocks.answer_fill (·.targets.get? id) (counts id <| .set ·) _ law mocks items

end Mocks

namespace Gateway

/-- Two gateways that answer every question alike. -/
structure AnswersAlike (left right : Gateway) : Prop extends left.Agrees right where
  noBindings : left.grants.isEmpty = right.grants.isEmpty
  credentials : ∀ value, left.keys.get? value = right.keys.get? value
  values : left.keys.size = right.keys.size
  noTargets : left.mocks.isEmpty = right.mocks.isEmpty
  traffic : left.traffic = right.traffic

/-- A gateway that holds its routes in their slots answers after two loads of one manifest as it
does after the first. -/
theorem answersAlike_loadAll_loadAll {gateway : Gateway} {table : Routes.Table}
    (represents : gateway.routes.Represents table) (manifest : Manifest) :
    ((gateway.loadAll manifest).2.loadAll manifest).2.AnswersAlike
      (gateway.loadAll manifest).2 := by
  have once := represents.loadAll manifest
  obtain ⟨routes, count⟩ := once.get?_congr (once.loadAll manifest)
    (table.get?_fill_fill manifest.routes)
  have bindings (id : ResourceName) :=
    Store.grants.answer_loadAll_loadAll (·.contains id)
      (Grants.contains_fill · manifest.bindings id) gateway
  have credentials (value : String) :=
    Store.keys.answer_loadAll_loadAll (·.get? value)
      (Keyring.get?_fill · manifest.credentials value) gateway
  have targets (id : ResourceName) :=
    Store.mocks.answer_loadAll_loadAll (·.targets.get? id)
      (Mocks.targets_fill · manifest.mockTargets id) gateway
  exact {
    routes
    count
    permissions := fun id credential path =>
      Store.grants.answer_loadAll_loadAll (·.get? id credential path)
        (Grants.get?_fill · manifest.bindings id credential path) gateway
    bindings
    mocks := fun id path method =>
      Store.mocks.answer_loadAll_loadAll (·.get? id path method)
        (Mocks.get?_fill · manifest.mockTargets id path method) gateway
    noBindings := Spaces.isEmpty_congr bindings
    credentials
    values := Keyring.size_congr credentials
    noTargets := Spaces.isEmpty_congr fun id => congrArg Option.isSome (targets id)
    traffic := traffic_applyAll _ _ }

/-- Whatever was applied and requested before, and whatever a manifest lists, a second load of it
refuses as many resources as the first and leaves every answer as it was. -/
theorem loadAll_again (steps : List Step) (manifest : Manifest) :
    (((fresh.run steps).loadAll manifest).2.loadAll manifest).1 =
        ((fresh.run steps).loadAll manifest).1 ∧
      (((fresh.run steps).loadAll manifest).2.loadAll manifest).2.AnswersAlike
        ((fresh.run steps).loadAll manifest).2 := by
  constructor
  · rw [loadAll_fst, loadAll_fst]
  · exact answersAlike_loadAll_loadAll (represents_run steps) manifest

end Gateway

end Tollgate
