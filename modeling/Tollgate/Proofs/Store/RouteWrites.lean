import Tollgate.Proofs.Gateway.Stores
import Tollgate.Proofs.Store.Routes

/-!
# Writes to a store of routes

A sequence of writes acts on a store of routes as on a flat table from slots to routes.  The table
knows neither tries nor counts; a store that grew from nothing answers every query from it.
-/

namespace Tollgate

namespace Routes

/-- A write to a store of routes. -/
inductive Write where
  | set (route : Route)
  | update (old new : Route)
  | delete (route : Route)
  deriving DecidableEq, Repr

/-- The slots that a write names. -/
def Write.slots : Write → List (List String × String)
  | .set route => [route.slot]
  | .update old new => [old.slot, new.slot]
  | .delete route => [route.slot]

/-- The store after a write; a refused move leaves it as it was. -/
def write (routes : Routes) : Write → Routes
  | .set route => routes.set route
  | .update old new => (routes.update old new).toOption.getD routes
  | .delete route => (routes.delete route).2

theorem write_of_granted {routes moved : Routes} {old new : Route}
    (granted : routes.update old new = .ok moved) : routes.write (.update old new) = moved := by
  rw [write, granted]
  rfl

theorem write_of_denied {routes : Routes} {old new : Route} {refusal : Refusal}
    (denied : routes.update old new = .error refusal) :
    routes.write (.update old new) = routes := by
  rw [write, denied]
  rfl

/-- The store after writes one after the other. -/
def writeAll (routes : Routes) (writes : List Write) : Routes :=
  writes.foldl write routes

namespace Table

/-- Whether a route may move to its slot: the slot is free, or holds a route of the same owner. -/
def admits (table : Table) (new : Route) : Bool :=
  (table.get? new.slot).all (·.sameOwner new)

/-- Clear the slot of a route, if it holds a route of the same owner. -/
def release (table : Table) (old : Route) : Table :=
  if (table.get? old.slot).any (·.sameOwner old) then table.erase old.slot else table

/-- The table after a write. -/
def write (table : Table) : Write → Table
  | .set route => table.insert route.slot route
  | .update old new =>
      if table.admits new then (table.release old).insert new.slot new else table
  | .delete route => table.erase route.slot

/-- The table after writes one after the other. -/
def writeAll (table : Table) (writes : List Write) : Table :=
  writes.foldl write table

theorem get?_release_of_ne (table : Table) (old : Route) {slot : List String × String}
    (apart : slot ≠ old.slot) : (table.release old).get? slot = table.get? slot := by
  rw [release]
  split
  · rw [Dict.get?_erase, if_neg apart]
  · rfl

/-- A write leaves the slots that it does not name. -/
theorem get?_write_of_notMem (table : Table) (write : Write) {slot : List String × String}
    (apart : slot ∉ write.slots) : (table.write write).get? slot = table.get? slot := by
  cases write with
  | set route =>
      rw [Table.write, Dict.get?_insert, if_neg (mt List.mem_singleton.mpr apart)]
  | update old new =>
      simp only [Write.slots, List.mem_cons, List.not_mem_nil, or_false, not_or] at apart
      rw [Table.write]
      split
      · rw [Dict.get?_insert, if_neg apart.2, get?_release_of_ne table old apart.1]
      · rfl
  | delete route =>
      rw [Table.write, Dict.get?_erase, if_neg (mt List.mem_singleton.mpr apart)]

end Table

variable {routes : Routes} {table : Table}

namespace Represents

theorem release_eq (represents : routes.Represents table) (old : Route) :
    table.release old = table.vacate old := by
  rw [Table.release, Table.vacate]
  cases held : table.get? old.slot with
  | none => rfl
  | some occupant => simp only [Option.any_some, represents.sameOwner_eq held]

theorem admits_eq_true_iff (represents : routes.Represents table) (new : Route) :
    table.admits new = true ↔
      ∀ occupant, table.get? new.slot = some occupant → occupant.id = new.id := by
  rw [Table.admits]
  cases held : table.get? new.slot with
  | none => simp
  | some occupant => simp [represents.sameOwner_eq held]

/-- An update is granted exactly when the table admits the route, and moves it there. -/
theorem update (represents : routes.Represents table) (old new : Route) :
    (table.admits new = true →
        ∃ moved, routes.update old new = .ok moved ∧
          moved.Represents ((table.release old).insert new.slot new)) ∧
      (table.admits new = false → ∃ refusal, routes.update old new = .error refusal) := by
  rw [represents.release_eq, ← Bool.not_eq_true, represents.admits_eq_true_iff]
  constructor
  · intro free
    exact represents.update_of_free old free
  · intro taken
    push Not at taken
    obtain ⟨occupant, held, other⟩ := taken
    exact ⟨_, represents.update_of_taken old held other⟩

/-- A write to the store is the write to the table. -/
theorem write (represents : routes.Represents table) (write : Write) :
    (routes.write write).Represents (table.write write) := by
  cases write with
  | set route => exact represents.set route
  | delete route => exact represents.clear route.address route.host
  | update old new =>
      obtain ⟨moves, stays⟩ := represents.update old new
      rw [Table.write]
      split
      · next admitted =>
        obtain ⟨moved, granted, represented⟩ := moves admitted
        rwa [write_of_granted granted]
      · next taken =>
        obtain ⟨refusal, denied⟩ := stays (Bool.eq_false_iff.mpr taken)
        rwa [write_of_denied denied]

/-- So is a sequence of writes. -/
theorem writeAll (represents : routes.Represents table) (writes : List Write) :
    (routes.writeAll writes).Represents (table.writeAll writes) := by
  induction writes generalizing routes table with
  | nil => exact represents
  | cons first rest ih => exact ih (represents.write first)

end Represents

/-- What was written to an empty store is answered from the flat table of the same writes: an
update is granted exactly when the table admits it; a request gets the route of its host at the
longest prefix that has a route for some host; a deletion hands back what it removes; the routes
are counted; and each stands in its own slot. -/
theorem writeAll_refines (writes : List Write) :
    (∀ old new, ((empty.writeAll writes).update old new).isOk =
        (Table.writeAll .empty writes).admits new) ∧
      (∀ path host route, (empty.writeAll writes).get? path host = some route ↔
        ∃ address, address <+: Path.parts path ∧
          (Table.writeAll .empty writes).get? (address, host) = some route ∧
          ∀ other name, other <+: Path.parts path →
            ((Table.writeAll .empty writes).get? (other, name)).isSome →
              other.length ≤ address.length) ∧
      (∀ route, ((empty.writeAll writes).delete route).1 =
        (Table.writeAll .empty writes).get? route.slot) ∧
      (empty.writeAll writes).count = (Table.writeAll .empty writes).size ∧
      ∀ address host route, (Table.writeAll .empty writes).get? (address, host) = some route →
        Path.normalizedSegments route.sourcePath = address ∧ route.host = host := by
  have represents := represents_empty.writeAll writes
  refine ⟨?_, fun path host route => represents.get?_eq_some_iff,
    fun route => represents.clear_fst route.address route.host, represents.counted, ?_⟩
  · intro old new
    obtain ⟨moves, stays⟩ := represents.update old new
    cases admitted : (Table.writeAll .empty writes).admits new with
    | true =>
        obtain ⟨moved, granted, _⟩ := moves admitted
        rw [granted]
        rfl
    | false =>
        obtain ⟨refusal, denied⟩ := stays admitted
        rw [denied]
        rfl
  · intro address host route found
    exact Prod.mk.inj (represents.housed (address, host) route found)

/-! ## Events -/

/-- The answer of the routes to an event. -/
abbrev answer : Routes → Event → Except Refusal Routes :=
  Store.routes.react

theorem answer_added (routes : Routes) (route : Route) :
    routes.answer (.added (.route route)) = .ok (routes.set route) := by
  change Section.routes.react reactions routes (.added (Section.routes.wrap route)) = _
  rw [Section.react_added, reactions]

theorem answer_updated (routes : Routes) (old new : Route) :
    routes.answer (.updated (.route old) (.route new)) = routes.update old new := by
  change Section.routes.react reactions routes
    (.updated (Section.routes.wrap old) (Section.routes.wrap new)) = _
  rw [Section.react_updated, reactions]

theorem answer_deleted (routes : Routes) (route : Route) :
    routes.answer (.deleted (.route route)) = .ok (routes.delete route).2 := by
  change Section.routes.react reactions routes (.deleted (Section.routes.wrap route)) = _
  rw [Section.react_deleted, reactions]

theorem absorb_updated (routes : Routes) (old new : Route) :
    Batch.absorb answer routes (.updated (.route old) (.route new)) =
      routes.write (.update old new) := by
  cases granted : routes.update old new with
  | ok moved =>
      rw [Batch.absorb_of_ok ((answer_updated routes old new).trans granted),
        write_of_granted granted]
  | error refusal =>
      have denied := (answer_updated routes old new).trans granted
      rw [write_of_denied granted]
      simp only [Batch.absorb, denied]

/-- The write that an event asks of the routes. -/
def writeOf? : Event → Option Write
  | .added (.route route) => some (.set route)
  | .updated (.route old) (.route new) => some (.update old new)
  | .deleted (.route route) => some (.delete route)
  | _ => none

/-- The routes take an event as the write that it asks of them. -/
theorem absorb_eq_writeAll (routes : Routes) (event : Event) :
    Batch.absorb answer routes event = routes.writeAll (writeOf? event).toList := by
  cases event with
  | added resource => cases resource <;> rfl
  | updated old new =>
      cases old <;> cases new
      case route.route old new => exact absorb_updated routes old new
      all_goals rfl
  | deleted resource => cases resource <;> rfl

theorem final_eq_writeAll (routes : Routes) (events : List Event) :
    Batch.final answer routes events = routes.writeAll (events.filterMap writeOf?) := by
  induction events generalizing routes with
  | nil => rfl
  | cons event rest ih =>
      rw [Batch.final_cons, ih, absorb_eq_writeAll, List.filterMap_cons]
      cases writeOf? event <;> rfl

end Routes

end Tollgate
