import Tollgate.Proofs.Gateway.Loaded
import Mathlib.Data.List.Nodup

/-!
# Reloads

A reload applies the events between two manifests to a gateway that holds the first.  Store by
store it removes what is gone and then takes in the items of the next manifest, in their order.
With distinct keys every name is concerned at most once, and that of an unchanged item not at all.
-/

namespace Tollgate

namespace Manifest

/-- No two resources agree in kind, namespace and name. -/
def DistinctKeys (manifest : Manifest) : Prop :=
  (manifest.resources.map Resource.key).Nodup

instance (manifest : Manifest) : Decidable manifest.DistinctKeys :=
  inferInstanceAs (Decidable (List.Nodup _))

end Manifest

namespace Gateway

/-- A gateway that was loaded with one manifest and then brought to the next by their events. -/
def reloaded (previous next : Manifest) : Gateway :=
  ((loaded previous).applyAll (previous.diff next)).2

end Gateway

namespace Section

variable {α : Type} (part : Section α)

theorem id_wrap (item : α) : (part.wrap item).id = part.name item :=
  congrArg Prod.snd (part.key_wrap item)

/-- Items of one section have distinct names when the resources have distinct keys. -/
theorem nodup_names {manifest : Manifest} (distinct : manifest.DistinctKeys) :
    ((part.items manifest).map part.name).Nodup := by
  have ofKind : ((part.items manifest).map part.wrap).map Resource.key =
      ((part.items manifest).map part.name).map (part.kind, ·) := by
    rw [List.map_map, List.map_map]
    apply List.map_congr_left
    intro item _
    exact part.key_wrap item
  have keys : (((part.items manifest).map part.name).map (part.kind, ·)).Nodup := by
    rw [← ofKind, ← part.resources_of_kind]
    exact distinct.sublist (List.filter_sublist.map Resource.key)
  exact List.Nodup.of_map _ keys

theorem mem_gone_iff {previous next : List α} {old : α} :
    old ∈ part.gone previous next ↔ old ∈ previous ∧ part.name old ∉ next.map part.name := by
  rw [gone, List.mem_filter, decide_eq_true_eq]

/-- With distinct names, the item of a name is found in any order. -/
theorem find?_name {items : List α} (distinct : (items.map part.name).Nodup) {item sought : α}
    (member : item ∈ items) (same : part.name item = part.name sought) :
    items.find? (part.name · = part.name sought) = some item := by
  cases found : items.find? (part.name · = part.name sought) with
  | none => exact absurd (decide_eq_true same) (List.find?_eq_none.mp found item member)
  | some other =>
      have named : part.name other = part.name sought := by
        simpa using List.find?_some found
      rw [List.inj_on_of_nodup_map distinct (List.mem_of_find?_eq_some found) member
        (named.trans same.symm)]

variable [DecidableEq α]

/-- With distinct names, what arrives is decided by the one previous item of the name. -/
theorem arrival_of_mem {previous : List α} (distinct : (previous.map part.name).Nodup)
    {old new : α} (member : old ∈ previous) (same : part.name old = part.name new) :
    part.arrival previous new =
      if old = new then none else some (.updated (part.wrap old) (part.wrap new)) := by
  have found : previous.reverse.find? (part.name · = part.name new) = some old := by
    apply part.find?_name _ (List.mem_reverse.mpr member) same
    rw [List.map_reverse]
    exact List.nodup_reverse.mpr distinct
  rw [arrival, found]

theorem arrival_of_notMem {previous : List α} {new : α}
    (absent : part.name new ∉ previous.map part.name) :
    part.arrival previous new = some (.added (part.wrap new)) := by
  have missed : previous.reverse.find? (part.name · = part.name new) = none := by
    rw [List.find?_eq_none]
    intro old member same
    apply absent
    rw [← of_decide_eq_true same]
    exact List.mem_map_of_mem (List.mem_reverse.mp member)
  rw [arrival, missed]

omit [DecidableEq α] in
/-- What can stand among the changes between two lists: the removal of an item that is gone, the
addition of one that is new, and the update of one that differs. -/
inductive Change (previous next : List α) : Event → Prop where
  | gone (old : α) (known : old ∈ previous) (left : part.name old ∉ next.map part.name) :
      Change previous next (.deleted (part.wrap old))
  | new (item : α) (present : item ∈ next) (unknown : part.name item ∉ previous.map part.name) :
      Change previous next (.added (part.wrap item))
  | changed (old new : α) (known : old ∈ previous) (present : new ∈ next)
      (same : part.name old = part.name new) (differs : old ≠ new) :
      Change previous next (.updated (part.wrap old) (part.wrap new))

variable {previous next : List α} {event : Event}

theorem change_of_arrival {item : α} (present : item ∈ next)
    (arrives : part.arrival previous item = some event) :
    part.Change previous next event ∧ event.resource = part.wrap item := by
  unfold arrival at arrives
  split at arrives
  · next missed =>
    cases arrives
    refine ⟨.new item present ?_, rfl⟩
    intro known
    rcases List.mem_map.mp known with ⟨old, member, same⟩
    exact List.find?_eq_none.mp missed old (List.mem_reverse.mpr member) (decide_eq_true same)
  · next old found =>
    split at arrives
    · contradiction
    · next differs =>
      cases arrives
      exact ⟨.changed old item (List.mem_reverse.mp (List.mem_of_find?_eq_some found)) present
        (by simpa using List.find?_some found) differs, rfl⟩

theorem change_of_mem (member : event ∈ part.changes previous next) :
    part.Change previous next event := by
  rcases List.mem_append.mp member with removal | arrival
  · rcases List.mem_map.mp removal with ⟨old, gone, rfl⟩
    rcases part.mem_gone_iff.mp gone with ⟨known, left⟩
    exact .gone old known left
  · rcases List.mem_filterMap.mp arrival with ⟨item, present, arrives⟩
    exact (part.change_of_arrival present arrives).1

/-- With distinct names, every such change is among them. -/
theorem mem_changes_of_change (namesBefore : (previous.map part.name).Nodup)
    (change : part.Change previous next event) : event ∈ part.changes previous next := by
  cases change with
  | gone old known left =>
      exact List.mem_append_left _ (List.mem_map_of_mem (part.mem_gone_iff.mpr ⟨known, left⟩))
  | new item present unknown =>
      exact List.mem_append_right _
        (List.mem_filterMap.mpr ⟨item, present, part.arrival_of_notMem unknown⟩)
  | changed old new known present same differs =>
      have arrives := part.arrival_of_mem namesBefore known same
      rw [if_neg differs] at arrives
      exact List.mem_append_right _ (List.mem_filterMap.mpr ⟨new, present, arrives⟩)

omit [DecidableEq α] in
/-- A change concerns a name of one of the lists. -/
theorem Change.id_mem (change : part.Change previous next event) :
    event.resource.id ∈ previous.map part.name ∨ event.resource.id ∈ next.map part.name := by
  cases change with
  | gone old known =>
      rw [Event.resource, part.id_wrap]
      exact Or.inl (List.mem_map_of_mem known)
  | new item present =>
      rw [Event.resource, part.id_wrap]
      exact Or.inr (List.mem_map_of_mem present)
  | changed old new _ present =>
      rw [Event.resource, part.id_wrap]
      exact Or.inr (List.mem_map_of_mem present)

omit [DecidableEq α] in
/-- No change concerns the name of an item that stays as it is. -/
theorem Change.id_ne (change : part.Change previous next event)
    (namesBefore : (previous.map part.name).Nodup) (namesAfter : (next.map part.name).Nodup)
    {item : α} (known : item ∈ previous) (kept : item ∈ next) :
    event.resource.id ≠ part.name item := by
  cases change with
  | gone old _ left =>
      intro same
      rw [Event.resource, part.id_wrap] at same
      exact left (same ▸ List.mem_map_of_mem kept)
  | new fresh _ unknown =>
      intro same
      rw [Event.resource, part.id_wrap] at same
      exact unknown (same ▸ List.mem_map_of_mem known)
  | changed old new before after same differs =>
      intro named
      rw [Event.resource, part.id_wrap] at named
      apply differs
      rw [List.inj_on_of_nodup_map namesBefore before known (same.trans named),
        List.inj_on_of_nodup_map namesAfter after kept named]

/-- With distinct names, no two changes concern one name. -/
theorem changes_pairwise (namesBefore : (previous.map part.name).Nodup)
    (namesAfter : (next.map part.name).Nodup) :
    (part.changes previous next).Pairwise fun first second =>
      first.resource.id ≠ second.resource.id := by
  rw [changes, List.pairwise_append]
  refine ⟨?_, ?_, ?_⟩
  · rw [List.pairwise_map]
    refine ((List.pairwise_map.mp namesBefore).filter _).imp ?_
    intro first second apart
    rwa [Event.resource, Event.resource, part.id_wrap, part.id_wrap]
  · rw [List.pairwise_filterMap]
    refine (List.pairwise_map.mp namesAfter).imp_of_mem ?_
    intro first second firstPresent secondPresent apart _ firstArrives _ secondArrives
    rw [(part.change_of_arrival firstPresent firstArrives).2,
      (part.change_of_arrival secondPresent secondArrives).2, part.id_wrap, part.id_wrap]
    exact apart
  · intro removal removed arrived arrives same
    rcases List.mem_map.mp removed with ⟨old, gone, rfl⟩
    rcases List.mem_filterMap.mp arrives with ⟨new, present, arrival⟩
    rw [(part.change_of_arrival present arrival).2, Event.resource, part.id_wrap,
      part.id_wrap] at same
    exact (part.mem_gone_iff.mp gone).2 (same ▸ List.mem_map_of_mem present)

end Section

namespace Store

variable {σ α : Type} (store : Store σ α) [DecidableEq α]

/-- The events between two manifests do to a store what the changes of its section do. -/
theorem state_diff (gateway : Gateway) (previous next : Manifest) :
    store.state (gateway.applyAll (previous.diff next)).2 =
      Batch.final store.react (store.state gateway)
        (store.part.changes (store.part.items previous) (store.part.items next)) := by
  rw [state_applyAll, store.part.filter_diff]

/-- The changes that the store refuses are the refused events of its kind. -/
theorem filter_refused_diff (gateway : Gateway) (previous next : Manifest) :
    (gateway.refused (previous.diff next)).filter (Event.concerns store.part.kind) =
      Batch.refused store.react (store.state gateway)
        (store.part.changes (store.part.items previous) (store.part.items next)) := by
  rw [filter_refused, store.part.filter_diff]

/-- When nothing is refused, no store refuses a change. -/
theorem refused_changes_of_granted {gateway : Gateway} {previous next : Manifest}
    (granted : (gateway.applyAll (previous.diff next)).1 = 0) :
    Batch.refused store.react (store.state gateway)
      (store.part.changes (store.part.items previous) (store.part.items next)) = [] := by
  rw [Gateway.applyAll_eq] at granted
  rw [← filter_refused_diff, List.eq_nil_of_length_eq_zero granted, List.filter_nil]

/-- What every change of a section keeps is kept by any events drawn from between the manifests. -/
theorem state_applyAll_induction (holds : σ → Prop) {previous next : Manifest}
    {events : List Event} (drawn : events ⊆ previous.diff next) {gateway : Gateway}
    (start : holds (store.state gateway))
    (keeps : ∀ event,
      store.part.Change (store.part.items previous) (store.part.items next) event →
        ∀ state, holds state → holds (Batch.absorb store.react state event)) :
    holds (store.state (gateway.applyAll events).2) := by
  rw [state_applyAll]
  apply Batch.final_keeps start
  intro event member
  apply keeps event
  apply store.part.change_of_mem
  rcases List.mem_filter.mp member with ⟨listed, own⟩
  rw [← store.part.filter_diff]
  exact List.mem_filter.mpr ⟨drawn listed, own⟩

end Store

end Tollgate
