import Tollgate.Proofs.Reload.Basic

/-!
# Reloading routes

A reload moves the routes one after the other, in the order of the next manifest, and a route does
not move into a slot that another route still holds.  So the routes end where the next manifest
has them exactly when every route that moves finds its slot left by then; chains in the wrong
order and cycles are refused.
-/

namespace Tollgate

namespace Manifest

/-- No two routes have one slot. -/
def DistinctSlots (manifest : Manifest) : Prop :=
  (manifest.routes.map Route.slot).Nodup

instance (manifest : Manifest) : Decidable manifest.DistinctSlots :=
  inferInstanceAs (Decidable (List.Nodup _))

/-- A known route moves to the slot that another one has before the reload. -/
def InTheWay (previous : List Route) (mover other : Route) : Prop :=
  (∃ old ∈ previous, old.id = mover.id) ∧
    ∃ holder ∈ previous, holder.id = other.id ∧ holder.slot = mover.slot

instance (previous : List Route) (mover other : Route) :
    Decidable (InTheWay previous mover other) :=
  inferInstanceAs (Decidable (_ ∧ _))

end Manifest

namespace Routes

open Manifest

variable {routes : Routes} {table : Table}

/-! ## Removing -/

/-- Removing routes clears their slots, and nothing of it is refused. -/
theorem Represents.remove (represents : routes.Represents table) (items : List Route) :
    Batch.refused answer routes (items.map fun item => .deleted (.route item)) = [] ∧
      ∃ cleared : Table,
        (Batch.final answer routes (items.map fun item => .deleted (.route item))).Represents
          cleared ∧
        ∀ slot, cleared.get? slot =
          if slot ∈ items.map Route.slot then none else table.get? slot := by
  induction items generalizing routes table with
  | nil => exact ⟨rfl, table, represents, fun slot => by simp⟩
  | cons item rest ih =>
      obtain ⟨granted, cleared, represented, answers⟩ :=
        ih (represents.clear item.address item.host)
      rw [List.map_cons, Batch.refused_cons_of_ok (answer_deleted routes item), Batch.final_cons,
        Batch.absorb_of_ok (answer_deleted routes item)]
      refine ⟨granted, cleared, represented, ?_⟩
      intro slot
      simp only [answers, Dict.get?_erase, List.map_cons, List.mem_cons]
      by_cases later : slot ∈ rest.map Route.slot
      · simp [later]
      · by_cases here : slot = item.slot
        · simp [here, Route.slot]
        · have apart : slot ≠ (item.address, item.host) := here
          simp [later, here, apart]

/-! ## Moving -/

/-- The routes of a reload: those from before, those that have moved already, and those still to
move.  Names and slots are distinct before the reload and after it. -/
structure Plan (previous done rest : List Route) : Prop where
  namesBefore : (previous.map Route.id).Nodup
  slotsBefore : (previous.map Route.slot).Nodup
  names : ((done ++ rest).map Route.id).Nodup
  slots : ((done ++ rest).map Route.slot).Nodup

/-- In the middle of a reload, a slot holds the route that has moved there, or else the route it
held before, if that one has still to move. -/
def Midway (previous done rest : List Route) (table : Table) : Prop :=
  ∀ slot route, table.get? slot = some route ↔
    route.slot = slot ∧
      (route ∈ done ∨
        route ∈ previous ∧ route.id ∈ rest.map Route.id ∧ slot ∉ done.map Route.slot)

/-- A table with one route moved: it stands in its slot, and nowhere else. -/
def Table.Moved (table moved : Table) (new : Route) : Prop :=
  ∀ slot route, moved.get? slot = some route ↔
    if slot = new.slot then route = new else table.get? slot = some route ∧ route.id ≠ new.id

variable {previous done rest : List Route} {new old : Route}

namespace Plan

theorem advance (plan : Plan previous done (new :: rest)) : Plan previous (done ++ [new]) rest where
  namesBefore := plan.namesBefore
  slotsBefore := plan.slotsBefore
  names := by simpa using plan.names
  slots := by simpa using plan.slots

theorem id_notMem_done (plan : Plan previous done (new :: rest)) : new.id ∉ done.map Route.id := by
  have names := plan.names
  rw [List.map_append, List.nodup_append] at names
  intro member
  exact names.2.2 _ member new.id (by simp) rfl

theorem id_notMem_rest (plan : Plan previous done (new :: rest)) : new.id ∉ rest.map Route.id := by
  have names := plan.names
  rw [List.map_append, List.map_cons, List.nodup_append] at names
  exact (List.nodup_cons.mp names.2.1).1

theorem slot_notMem_done (plan : Plan previous done (new :: rest)) :
    new.slot ∉ done.map Route.slot := by
  have slots := plan.slots
  rw [List.map_append, List.nodup_append] at slots
  intro member
  exact slots.2.2 _ member new.slot (by simp) rfl

/-- A previous route is known by its name. -/
theorem eq_of_id (plan : Plan previous done rest) {route : Route} (member : route ∈ previous)
    (known : old ∈ previous) (same : route.id = old.id) : route = old :=
  List.inj_on_of_nodup_map plan.namesBefore member known same

theorem eq_of_slot (plan : Plan previous done rest) {route : Route} (member : route ∈ previous)
    (known : old ∈ previous) (same : route.slot = old.slot) : route = old :=
  List.inj_on_of_nodup_map plan.slotsBefore member known same

end Plan

/-- Moving the next route keeps the picture. -/
theorem Midway.advance (midway : Midway previous done (new :: rest) table)
    (plan : Plan previous done (new :: rest)) {moved : Table} (moves : table.Moved moved new) :
    Midway previous (done ++ [new]) rest moved := by
  intro slot route
  rw [moves]
  by_cases here : slot = new.slot
  · subst here
    rw [if_pos rfl]
    constructor
    · rintro rfl
      exact ⟨rfl, Or.inl (by simp)⟩
    · rintro ⟨same, member | ⟨_, _, apart⟩⟩
      · rcases List.mem_append.mp member with earlier | last
        · exact absurd (List.mem_map.mpr ⟨route, earlier, same⟩) plan.slot_notMem_done
        · exact List.mem_singleton.mp last
      · exact absurd (by simp) apart
  · rw [if_neg here, midway]
    constructor
    · rintro ⟨⟨same, member | ⟨member, waits, apart⟩⟩, other⟩
      · exact ⟨same, Or.inl (List.mem_append_left _ member)⟩
      · refine ⟨same, Or.inr ⟨member, ?_, by simp [apart, here]⟩⟩
        exact (List.mem_cons.mp waits).resolve_left other
    · rintro ⟨same, member | ⟨member, waits, apart⟩⟩
      · rcases List.mem_append.mp member with earlier | last
        · refine ⟨⟨same, Or.inl earlier⟩, fun named => plan.id_notMem_done ?_⟩
          exact List.mem_map.mpr ⟨route, earlier, named⟩
        · rw [List.mem_singleton.mp last] at same
          exact absurd same.symm here
      · refine ⟨⟨same, Or.inr ⟨member, List.mem_cons_of_mem _ waits, ?_⟩⟩, ?_⟩
        · exact fun held => apart (by simp [held])
        · exact fun named => plan.id_notMem_rest (named ▸ waits)

/-- A name that was unknown before stands nowhere until its route moves. -/
theorem Midway.id_ne_of_unknown (midway : Midway previous done (new :: rest) table)
    (plan : Plan previous done (new :: rest)) (unknown : new.id ∉ previous.map Route.id)
    {slot : List String × String} {route : Route} (held : table.get? slot = some route) :
    route.id ≠ new.id := by
  intro named
  rcases ((midway slot route).mp held).2 with member | ⟨member, _⟩
  · exact plan.id_notMem_done (List.mem_map.mpr ⟨route, member, named⟩)
  · exact unknown (List.mem_map.mpr ⟨route, member, named⟩)

/-- Until a known route moves, its name stands at most in its old slot. -/
theorem Midway.eq_of_id (midway : Midway previous done (new :: rest) table)
    (plan : Plan previous done (new :: rest)) (known : old ∈ previous) (same : old.id = new.id)
    {slot : List String × String} {route : Route} (held : table.get? slot = some route)
    (named : route.id = new.id) : route = old := by
  rcases ((midway slot route).mp held).2 with member | ⟨member, _⟩
  · exact absurd (List.mem_map.mpr ⟨route, member, named⟩) plan.id_notMem_done
  · exact plan.eq_of_id member known (named.trans same.symm)

/-- A new route overwrites whatever its slot holds. -/
theorem Midway.moved_of_unknown (midway : Midway previous done (new :: rest) table)
    (plan : Plan previous done (new :: rest)) (unknown : new.id ∉ previous.map Route.id) :
    table.Moved (table.insert new.slot new) new := by
  intro slot route
  rw [Dict.get?_insert]
  split
  · rw [Option.some.injEq, eq_comm]
  · constructor
    · intro held
      exact ⟨held, midway.id_ne_of_unknown plan unknown held⟩
    · exact And.left

/-- A route that stays as it is has already arrived. -/
theorem Midway.moved_of_unchanged (midway : Midway previous done (new :: rest) table)
    (plan : Plan previous done (new :: rest)) (known : new ∈ previous) :
    table.Moved table new := by
  intro slot route
  split
  · next here =>
    have stands : table.get? slot = some new :=
      (midway slot new).mpr
        ⟨here.symm, Or.inr ⟨known, by simp, here ▸ plan.slot_notMem_done⟩⟩
    rw [stands, Option.some.injEq, eq_comm]
  · next elsewhere =>
    constructor
    · intro held
      refine ⟨held, fun named => elsewhere ?_⟩
      rw [← ((midway slot route).mp held).1, midway.eq_of_id plan known rfl held named]
    · exact And.left

theorem Midway.moved_of_known (midway : Midway previous done (new :: rest) table)
    (plan : Plan previous done (new :: rest)) (known : old ∈ previous) (same : old.id = new.id) :
    table.Moved ((table.vacate old).insert new.slot new) new := by
  intro slot route
  rw [Dict.get?_insert]
  split
  · rw [Option.some.injEq, eq_comm]
  · rw [Table.get?_vacate]
    apply and_congr_right
    intro held
    rw [not_iff_not, same]
    constructor
    · exact And.right
    · intro named
      refine ⟨?_, named⟩
      rw [← ((midway slot route).mp held).1, midway.eq_of_id plan known same held named]

/-- The slot that a known route moves to is taken exactly when a route in its way is still to
move. -/
theorem Midway.taken_iff (midway : Midway previous done (new :: rest) table)
    (plan : Plan previous done (new :: rest)) (known : old ∈ previous) (same : old.id = new.id) :
    (∃ occupant, table.get? new.slot = some occupant ∧ occupant.id ≠ new.id) ↔
      ∃ other ∈ rest, InTheWay previous new other := by
  constructor
  · rintro ⟨occupant, held, apart⟩
    rcases (midway _ _).mp held with ⟨home, member | ⟨member, waits, _⟩⟩
    · exact absurd (List.mem_map.mpr ⟨occupant, member, home⟩) plan.slot_notMem_done
    · obtain ⟨other, later, named⟩ :=
        List.mem_map.mp ((List.mem_cons.mp waits).resolve_left apart)
      exact ⟨other, later, ⟨old, known, same⟩, occupant, member, named.symm, home⟩
  · rintro ⟨other, later, _, holder, member, named, home⟩
    have waits : holder.id ∈ rest.map Route.id := named ▸ List.mem_map_of_mem later
    refine ⟨holder, (midway _ _).mpr ⟨home, Or.inr ⟨member, ?_, plan.slot_notMem_done⟩⟩, ?_⟩
    · exact List.mem_cons_of_mem _ waits
    · exact fun same => plan.id_notMem_rest (same ▸ waits)

/-- A route that stays as it is has nothing in its way. -/
theorem Plan.not_inTheWay_of_unchanged (plan : Plan previous done (new :: rest))
    (known : new ∈ previous) {other : Route} (later : other ∈ rest) :
    ¬InTheWay previous new other := by
  rintro ⟨_, holder, member, named, home⟩
  apply plan.id_notMem_rest
  rw [← plan.eq_of_slot member known home, named]
  exact List.mem_map_of_mem later

/-! ## One step and the whole reload -/

/-- The event of a route in a reload. -/
abbrev arrival (previous : List Route) : Route → Option Event :=
  Section.routes.arrival previous

/-- With nothing in its way, the next route moves. -/
theorem Represents.move (represents : routes.Represents table)
    (midway : Midway previous done (new :: rest) table)
    (plan : Plan previous done (new :: rest))
    (free : ∀ other ∈ rest, ¬InTheWay previous new other) :
    ∃ (next : Routes) (moved : Table),
      (arrival previous new).elim (.ok routes) routes.answer = .ok next ∧
        next.Represents moved ∧ Midway previous (done ++ [new]) rest moved := by
  by_cases known : new.id ∈ previous.map Route.id
  · rcases List.mem_map.mp known with ⟨old, member, same⟩
    rw [arrival, Section.routes.arrival_of_mem plan.namesBefore member same]
    split
    · next unchanged =>
      subst unchanged
      exact ⟨routes, table, rfl, represents,
        midway.advance plan (midway.moved_of_unchanged plan member)⟩
    · have vacant : ∀ occupant, table.get? new.slot = some occupant → occupant.id = new.id := by
        intro occupant held
        by_contra apart
        obtain ⟨other, later, blocks⟩ :=
          (midway.taken_iff plan member same).mp ⟨occupant, held, apart⟩
        exact free other later blocks
      rcases represents.update_of_free old vacant with ⟨next, granted, represented⟩
      exact ⟨next, _, (answer_updated routes old new).trans granted, represented,
        midway.advance plan (midway.moved_of_known plan member same)⟩
  · rw [arrival, Section.routes.arrival_of_notMem known]
    exact ⟨routes.set new, _, answer_added routes new, represents.set new,
      midway.advance plan (midway.moved_of_unknown plan known)⟩

/-- With something in its way, the next route is refused. -/
theorem Represents.refuse (represents : routes.Represents table)
    (midway : Midway previous done (new :: rest) table)
    (plan : Plan previous done (new :: rest)) {other : Route} (later : other ∈ rest)
    (blocks : InTheWay previous new other) :
    ∃ event refusal, arrival previous new = some event ∧ routes.answer event = .error refusal := by
  rcases blocks.1 with ⟨old, member, same⟩
  have changed : old ≠ new := by
    rintro rfl
    exact plan.not_inTheWay_of_unchanged member later blocks
  obtain ⟨occupant, held, apart⟩ :=
    (midway.taken_iff plan member same).mpr ⟨other, later, blocks⟩
  refine ⟨.updated (.route old) (.route new), _, ?_,
    (answer_updated routes old new).trans (represents.update_of_taken old held apart)⟩
  rw [arrival, Section.routes.arrival_of_mem plan.namesBefore member same, if_neg changed]
  rfl

/-- A run of moves is granted exactly when no route still to move is in the way of an earlier
one, and then it ends with every route in its slot. -/
theorem Represents.moves (represents : routes.Represents table)
    (midway : Midway previous done rest table) (plan : Plan previous done rest) :
    (Batch.refused answer routes (rest.filterMap (arrival previous)) = [] ↔
        rest.Pairwise fun mover later => ¬InTheWay previous mover later) ∧
      (rest.Pairwise (fun mover later => ¬InTheWay previous mover later) →
        ∃ moved : Table,
          (Batch.final answer routes (rest.filterMap (arrival previous))).Represents moved ∧
            Midway previous (done ++ rest) [] moved) := by
  induction rest generalizing routes table done with
  | nil => exact ⟨by simp, fun _ => ⟨table, represents, by simpa using midway⟩⟩
  | cons new rest ih =>
      rw [List.pairwise_cons]
      by_cases free : ∀ other ∈ rest, ¬InTheWay previous new other
      · rcases represents.move midway plan free with ⟨next, moved, granted, represented, onward⟩
        rcases Batch.filterMap_cons_of_ok granted rest with ⟨refusals, state⟩
        rw [refusals, state]
        rcases ih represented onward plan.advance with ⟨granted, settled⟩
        rw [List.append_assoc, List.singleton_append] at settled
        exact ⟨by rw [granted, and_iff_right free], fun order => settled order.2⟩
      · have blocked := free
        push Not at blocked
        rcases blocked with ⟨other, later, blocks⟩
        rcases represents.refuse midway plan later blocks with ⟨event, refusal, caused, denied⟩
        rw [List.filterMap_cons, caused, Batch.refused_cons_of_error denied]
        exact ⟨by simp [free], fun order => absurd order.1 free⟩

/-! ## From one manifest to the next -/

/-- The table has exactly these routes, each in its slot. -/
def Table.Lists (table : Table) (items : List Route) : Prop :=
  ∀ slot route, table.get? slot = some route ↔ route.slot = slot ∧ route ∈ items

/-- With distinct slots, a loaded table has every route in its slot. -/
theorem Table.lists_fill {manifest : Manifest} (distinct : manifest.DistinctSlots) :
    (Table.fill .empty manifest.routes).Lists manifest.routes := by
  intro slot route
  rw [get?_fill_empty]
  constructor
  · intro found
    exact ⟨by simpa using List.find?_some found,
      List.mem_reverse.mp (List.mem_of_find?_eq_some found)⟩
  · rintro ⟨rfl, member⟩
    cases found : manifest.routes.reverse.find? (·.slot = route.slot) with
    | none =>
        exact absurd (List.find?_eq_none.mp found route (List.mem_reverse.mpr member)) (by simp)
    | some other =>
        have home : other.slot = route.slot := by simpa using List.find?_some found
        rw [List.inj_on_of_nodup_map distinct
          (List.mem_reverse.mp (List.mem_of_find?_eq_some found)) member home]

/-- Removing what is gone leaves the routes that are still to move. -/
theorem Table.Lists.midway {previous next : List Route} (lists : table.Lists previous)
    {cleared : Table} (answers : ∀ slot, cleared.get? slot =
      if slot ∈ (Section.routes.gone previous next).map Route.slot then none
      else table.get? slot) :
    Midway previous [] next cleared := by
  intro slot route
  rw [answers]
  split
  · next vacated =>
    rcases List.mem_map.mp vacated with ⟨removed, gone, home⟩
    rcases Section.routes.mem_gone_iff.mp gone with ⟨member, unnamed⟩
    constructor
    · intro impossible
      contradiction
    · rintro ⟨same, absent | ⟨present, named, _⟩⟩
      · exact absurd absent (List.not_mem_nil)
      · have held := (lists slot route).mpr ⟨same, present⟩
        rw [(lists slot removed).mpr ⟨home, member⟩] at held
        exact absurd (Option.some.inj held ▸ named) unnamed
  · next kept =>
    rw [lists]
    apply and_congr_right
    intro home
    constructor
    · intro member
      refine Or.inr ⟨member, ?_, by simp⟩
      by_contra unnamed
      exact kept (List.mem_map.mpr
        ⟨route, Section.routes.mem_gone_iff.mpr ⟨member, unnamed⟩, home⟩)
    · rintro (absent | ⟨present, _⟩)
      · exact absurd absent (List.not_mem_nil)
      · exact present

/-- The changes between two lists are granted exactly when every route that moves finds its slot
left, and then the table is that of the next list. -/
theorem Represents.reload (represents : routes.Represents table) {previous next : List Route}
    (lists : table.Lists previous) (plan : Plan previous [] next) :
    (Batch.refused answer routes (Section.routes.changes previous next) = [] ↔
        next.Pairwise fun mover later => ¬InTheWay previous mover later) ∧
      (next.Pairwise (fun mover later => ¬InTheWay previous mover later) →
        ∃ moved : Table,
          (Batch.final answer routes (Section.routes.changes previous next)).Represents moved ∧
            moved.Lists next) := by
  obtain ⟨harmless, cleared, represented, answers⟩ :=
    represents.remove (Section.routes.gone previous next)
  obtain ⟨granted, settled⟩ := represented.moves (lists.midway answers) plan
  constructor
  · -- only what arrives can be refused
    have refusals : Batch.refused answer routes (Section.routes.changes previous next) =
        Batch.refused answer
          (Batch.final answer routes
            ((Section.routes.gone previous next).map fun item => .deleted (.route item)))
          (next.filterMap (arrival previous)) :=
      (Batch.refused_append ..).trans (congrArg (· ++ _) harmless)
    rw [refusals, granted]
  · intro order
    obtain ⟨moved, ends, places⟩ := settled order
    refine ⟨moved, ?_, ?_⟩
    · rwa [Section.changes, Batch.final_append]
    · intro slot route
      rw [places]
      simp

/-- The plan of a reload between two manifests. -/
theorem Plan.ofManifests {previous next : Manifest}
    (keysBefore : previous.DistinctKeys) (slotsBefore : previous.DistinctSlots)
    (keysAfter : next.DistinctKeys) (slotsAfter : next.DistinctSlots) :
    Plan previous.routes [] next.routes :=
  ⟨Section.routes.nodup_names keysBefore, slotsBefore, Section.routes.nodup_names keysAfter,
    slotsAfter⟩

/-- The events of a reload that concern routes are granted exactly when every route that moves
finds its slot left, and then the table is that of the next manifest. -/
theorem reload {previous next : Manifest}
    (keysBefore : previous.DistinctKeys) (slotsBefore : previous.DistinctSlots)
    (keysAfter : next.DistinctKeys) (slotsAfter : next.DistinctSlots) :
    (((Gateway.loaded previous).refused (previous.diff next)).filter (Event.concerns .route) = [] ↔
        next.routes.Pairwise fun mover later => ¬InTheWay previous.routes mover later) ∧
      (next.routes.Pairwise (fun mover later => ¬InTheWay previous.routes mover later) →
        ∃ moved : Table, (Gateway.reloaded previous next).routes.Represents moved ∧
          moved.Lists next.routes) := by
  obtain ⟨granted, settled⟩ := (represents_loaded previous).reload (Table.lists_fill slotsBefore)
    (Plan.ofManifests keysBefore slotsBefore keysAfter slotsAfter)
  constructor
  · rw [← granted]
    exact Eq.congr_left (Store.routes.filter_refused_diff (Gateway.loaded previous) previous next)
  · intro order
    obtain ⟨moved, represented, places⟩ := settled order
    have state : (Gateway.reloaded previous next).routes =
        Batch.final answer (Gateway.loaded previous).routes
          (Section.routes.changes previous.routes next.routes) :=
      Store.routes.state_diff (Gateway.loaded previous) previous next
    exact ⟨moved, state ▸ represented, places⟩

end Routes

namespace Manifest

/-- A manifest with one route at each of two paths. -/
def twoRoutes (first second : String) : Manifest where
  routes :=
    [{ id := ⟨"default", "a"⟩, sourcePath := first, backend := "one" },
      { id := ⟨"default", "b"⟩, sourcePath := second, backend := "two" }]

end Manifest

namespace Gateway

open Manifest

/-- A reload brings the routes to those of the next manifest, with no route event refused, exactly
when no route moves into the slot of one that comes later. -/
theorem reloaded_routes_iff {previous next : Manifest}
    (keysBefore : previous.DistinctKeys) (slotsBefore : previous.DistinctSlots)
    (keysAfter : next.DistinctKeys) (slotsAfter : next.DistinctSlots) :
    ((∀ path host, (reloaded previous next).routes.get? path host =
          (loaded next).routes.get? path host) ∧
        (reloaded previous next).routes.count = (loaded next).routes.count ∧
        ∀ event ∈ (loaded previous).refused (previous.diff next), event.resource.kind ≠ .route) ↔
      next.routes.Pairwise fun mover later => ¬InTheWay previous.routes mover later := by
  rcases Routes.reload keysBefore slotsBefore keysAfter slotsAfter with ⟨granted, settled⟩
  constructor
  · rintro ⟨_, _, harmless⟩
    apply granted.mp
    apply List.filter_eq_nil_iff.mpr
    intro event refused
    rw [Event.concerns, decide_eq_true_eq]
    exact harmless event refused
  · intro order
    rcases settled order with ⟨moved, represented, places⟩
    have same : ∀ slot,
        moved.get? slot = (Routes.Table.fill .empty next.routes).get? slot := by
      intro slot
      apply Option.ext
      intro route
      rw [places, Routes.Table.lists_fill slotsAfter]
    rcases (Routes.represents_loaded next).get?_congr represented same with ⟨answers, counts⟩
    refine ⟨answers, counts, ?_⟩
    intro event refused own
    exact List.filter_eq_nil_iff.mp (granted.mpr order) event refused (decide_eq_true own)

/-- A route that comes later can move into the slot that an earlier one has left. -/
theorem reloaded_routes_chain :
    ((∀ path host, (reloaded (twoRoutes "/a" "/b") (twoRoutes "/c" "/a")).routes.get? path host =
          (loaded (twoRoutes "/c" "/a")).routes.get? path host) ∧
        (reloaded (twoRoutes "/a" "/b") (twoRoutes "/c" "/a")).routes.count =
          (loaded (twoRoutes "/c" "/a")).routes.count ∧
        ∀ event ∈ (loaded (twoRoutes "/a" "/b")).refused
          ((twoRoutes "/a" "/b").diff (twoRoutes "/c" "/a")), event.resource.kind ≠ .route) ∧
      (twoRoutes "/a" "/b").diff (twoRoutes "/c" "/a") ≠ [] :=
  ⟨(reloaded_routes_iff (by decide +kernel) (by decide +kernel) (by decide +kernel)
    (by decide +kernel)).mpr (by decide +kernel), by decide +kernel⟩

/-- Two routes that trade places both stay where they were. -/
theorem reloaded_routes_swap_refused :
    ¬∀ previous next : Manifest, previous.DistinctKeys → previous.DistinctSlots →
      next.DistinctKeys → next.DistinctSlots →
        (∀ path host, (reloaded previous next).routes.get? path host =
            (loaded next).routes.get? path host) ∧
          (reloaded previous next).routes.count = (loaded next).routes.count ∧
          ∀ event ∈ (loaded previous).refused (previous.diff next),
            event.resource.kind ≠ .route := by
  intro claim
  obtain ⟨answers, _⟩ := claim (twoRoutes "/a" "/b") (twoRoutes "/b" "/a") (by decide +kernel)
    (by decide +kernel) (by decide +kernel) (by decide +kernel)
  have differs : (reloaded (twoRoutes "/a" "/b") (twoRoutes "/b" "/a")).routes.get? "/a" "" ≠
      (loaded (twoRoutes "/b" "/a")).routes.get? "/a" "" := by
    decide +kernel
  exact differs (answers "/a" "")

end Gateway

end Tollgate
