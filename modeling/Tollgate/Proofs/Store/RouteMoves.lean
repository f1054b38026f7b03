import Mathlib.Data.Set.Card
import Tollgate.Proofs.Gateway.Writes
import Tollgate.Proofs.Store.RouteWrites

/-!
# Moves of routes

A move looks at two slots that need not hold what the old version of the route says.  It is refused
when a stranger holds the new slot, clears the old slot only of a route of the old name, and leaves
every other slot alone.  The count of the routes is kept by hand, and is at every time the number
of the slots that are held.
-/

namespace Tollgate

namespace Routes

/-- The route in a slot. -/
def holder? (routes : Routes) (slot : List String × String) : Option Route :=
  routes.occupant? slot.1 slot.2

/-- The slots that are held. -/
def occupied (routes : Routes) : Set (List String × String) :=
  {slot | (routes.holder? slot).isSome}

/-- What a move from an old version of a route to a new one comes to: a refusal that names the
stranger in the new slot, or a store that differs in the two slots alone. -/
inductive Moves (before : Routes) (old new : Route) : Except Refusal Routes → Prop where
  | refused {occupant : Route} (held : before.holder? new.slot = some occupant)
      (stranger : occupant.id ≠ new.id) :
      Moves before old new
        (.error (.slotTaken (Path.normalize new.sourcePath) new.host occupant.id))
  | moved {after : Routes}
      (free : ∀ occupant, before.holder? new.slot = some occupant → occupant.id = new.id)
      (arrived : after.holder? new.slot = some new)
      (vacated : old.slot ≠ new.slot →
        (∃ occupant, before.holder? old.slot = some occupant ∧ occupant.id = old.id) →
          after.holder? old.slot = none)
      (left : old.slot ≠ new.slot →
        (¬∃ occupant, before.holder? old.slot = some occupant ∧ occupant.id = old.id) →
          after.holder? old.slot = before.holder? old.slot)
      (others : ∀ slot, slot ≠ old.slot → slot ≠ new.slot →
        after.holder? slot = before.holder? slot)
      (spared : ∀ slot route, before.holder? slot = some route → route.id ≠ old.id →
        route.id ≠ new.id → after.holder? slot = some route)
      (solvent : before.holds old = true →
        (before.clear old.address old.host).2.count + 1 = before.count)
      (balanced : after.count + (before.occupied \ after.occupied).ncard =
        before.count + (after.occupied \ before.occupied).ncard) :
      Moves before old new (.ok after)

namespace Represents

variable {routes : Routes} {table : Table}

theorem holder?_eq (represents : routes.Represents table) (slot : List String × String) :
    routes.holder? slot = table.get? slot :=
  represents.occupant slot.1 slot.2

theorem occupied_eq (represents : routes.Represents table) :
    routes.occupied = ↑(table.entries.map (·.1)).toFinset := by
  ext slot
  rw [occupied, Set.mem_ofPred_eq, represents.holder?_eq, List.coe_toFinset, Set.mem_ofPred_eq,
    Option.isSome_iff_exists, List.mem_map]
  constructor
  · rintro ⟨route, found⟩
    exact ⟨(slot, route), Dict.get?_eq_some_iff.mp found, rfl⟩
  · rintro ⟨⟨_, route⟩, entry, rfl⟩
    exact ⟨route, Dict.get?_eq_some_iff.mpr entry⟩

theorem finite_occupied (represents : routes.Represents table) : routes.occupied.Finite := by
  rw [represents.occupied_eq]
  exact Finset.finite_toSet _

/-- The count is the number of the slots that are held. -/
theorem count_eq_ncard (represents : routes.Represents table) :
    routes.count = routes.occupied.ncard := by
  have keys : (table.entries.map (·.1)).Nodup := List.pairwise_map.mpr table.distinct
  rw [represents.counted, represents.occupied_eq, Set.ncard_coe_finset,
    List.toFinset_card_of_nodup keys, List.length_map]
  rfl

/-- Between two stores the count changes by the slots filled less the slots emptied. -/
theorem count_balance (represents : routes.Represents table) {others : Routes} {other : Table}
    (represented : others.Represents other) :
    others.count + (routes.occupied \ others.occupied).ncard =
      routes.count + (others.occupied \ routes.occupied).ncard := by
  have finite := represents.finite_occupied
  have finished := represented.finite_occupied
  calc others.count + (routes.occupied \ others.occupied).ncard
      = (routes.occupied \ others.occupied).ncard + others.occupied.ncard := by
        rw [represented.count_eq_ncard, Nat.add_comm]
    _ = (others.occupied \ routes.occupied).ncard + routes.occupied.ncard := by
        rw [Set.ncard_sdiff_add_ncard _ _ finite finished,
          Set.ncard_sdiff_add_ncard _ _ finished finite, Set.union_comm]
    _ = routes.count + (others.occupied \ routes.occupied).ncard := by
        rw [represents.count_eq_ncard, Nat.add_comm]

/-- A route that is cleared from its own slot is on the count. -/
theorem solvent (represents : routes.Represents table) {old : Route}
    (owned : routes.holds old = true) :
    (routes.clear old.address old.host).2.count + 1 = routes.count := by
  rw [represents.holds_eq, Option.any_eq_true] at owned
  obtain ⟨occupant, held, _⟩ := owned
  exact represents.count_clear held

/-- A move that is granted acts on the two slots alone. -/
theorem moves_update_of_free (represents : routes.Represents table) (old : Route) {new : Route}
    (free : ∀ occupant, table.get? new.slot = some occupant → occupant.id = new.id) :
    routes.Moves old new (routes.update old new) := by
  obtain ⟨after, granted, represented⟩ := represents.update_of_free old free
  have arrived : after.holder? new.slot = some new := by
    rw [represented.holder?_eq, Dict.get?_insert, if_pos rfl]
  have elsewhere : ∀ slot, slot ≠ new.slot → after.holder? slot = (table.vacate old).get? slot := by
    intro slot apart
    rw [represented.holder?_eq, Dict.get?_insert, if_neg apart]
  have stays : ∀ slot, slot ≠ new.slot →
      (∀ occupant, table.get? slot = some occupant → ¬(slot = old.slot ∧ occupant.id = old.id)) →
        after.holder? slot = table.get? slot := by
    intro slot apart foreign
    apply Option.ext
    intro route
    rw [elsewhere slot apart, table.get?_vacate]
    exact ⟨And.left, fun held => ⟨held, foreign route held⟩⟩
  rw [granted]
  refine .moved ?_ arrived ?_ ?_ ?_ ?_ represents.solvent (represents.count_balance represented)
  all_goals simp only [represents.holder?_eq]
  · exact free
  · rintro apart ⟨occupant, held, own⟩
    rw [elsewhere _ apart, Option.eq_none_iff_forall_ne_some]
    intro route found
    obtain ⟨same, other⟩ := (table.get?_vacate old old.slot route).mp found
    rw [held] at same
    cases same
    exact other ⟨rfl, own⟩
  · intro apart foreign
    exact stays _ apart fun occupant held own => foreign ⟨occupant, held, own.2⟩
  · intro slot other apart
    exact stays slot apart fun _ _ own => other own.1
  · intro slot route held notOld notNew
    have apart : slot ≠ new.slot := by
      rintro rfl
      exact notNew (free route held)
    rw [stays slot apart, held]
    intro occupant found own
    rw [held] at found
    cases found
    exact notOld own.2

theorem moves_update (represents : routes.Represents table) (old new : Route) :
    routes.Moves old new (routes.update old new) := by
  by_cases free : ∀ occupant, table.get? new.slot = some occupant → occupant.id = new.id
  · exact represents.moves_update_of_free old free
  · push Not at free
    obtain ⟨occupant, held, stranger⟩ := free
    rw [represents.update_of_taken old held stranger]
    exact .refused ((represents.holder?_eq new.slot).trans held) stranger

end Represents

/-- After whatever writes, a move is refused exactly when a stranger holds the new slot, and else
changes the two slots alone and the count with them.  Carried out write by write, a refused move
leaves the store as it found it. -/
theorem update_moves (writes : List Write) (old new : Route) :
    (empty.writeAll writes).Moves old new ((empty.writeAll writes).update old new) ∧
      (move old new).perform (empty.writeAll writes) =
        match (empty.writeAll writes).update old new with
        | .ok after => (.ok (), after)
        | .error refusal => (.error refusal, empty.writeAll writes) := by
  refine ⟨(represents_empty.writeAll writes).moves_update old new, ?_⟩
  rw [realizes_move old new (empty.writeAll writes)]
  dsimp only
  cases (empty.writeAll writes).update old new <;> rfl

end Routes

end Tollgate
