import Tollgate.Proofs.Reload.Basic
import Mathlib.Data.List.Pairwise

/-!
# Reloading credentials

A value belongs to at most one credential of a manifest, but it may belong to different ones before
and after a reload.  The update of the credential that gives it up drops it, whoever holds it by
then.  So a value that moves is lost exactly when the credential it leaves comes later in the next
manifest than the one that takes it.
-/

namespace Tollgate

namespace Manifest

/-- The values of all credentials. -/
def values (manifest : Manifest) : List String :=
  manifest.credentials.flatMap Credential.revisions

/-- A credential listed the value before the reload. -/
def Listed (previous : List Credential) (value : String) (credential : Credential) : Prop :=
  ∃ old ∈ previous, old.id = credential.id ∧ value ∈ old.revisions

instance (previous : List Credential) (value : String) (credential : Credential) :
    Decidable (Listed previous value credential) :=
  inferInstanceAs (Decidable (∃ old ∈ previous, _))

/-- A credential takes a value that another one had before the reload. -/
def TakesFrom (previous : List Credential) (taker giver : Credential) : Prop :=
  ∃ value ∈ taker.revisions, Listed previous value giver

instance (previous : List Credential) (taker giver : Credential) :
    Decidable (TakesFrom previous taker giver) :=
  inferInstanceAs (Decidable (∃ value ∈ taker.revisions, _))

end Manifest

namespace Keyring

open Manifest

variable {keys : Keyring} {credential old new : Credential} {value : String}

/-! ## Removing -/

/-- Removing credentials clears the values of each. -/
theorem get?_remove (keys : Keyring) (items : List Credential) (value : String) :
    (Batch.final answer keys (items.map fun item => .deleted (.credential item))).get? value =
      if ∃ item ∈ items, value ∈ item.revisions then none else keys.get? value := by
  induction items generalizing keys with
  | nil => simp
  | cons item rest ih =>
      rw [List.map_cons, Batch.final_cons, ih, get?_absorb_deleted]
      by_cases later : ∃ other ∈ rest, value ∈ other.revisions
      · simp [later]
      · simp [later]

/-! ## Taking in the next manifest -/

/-- The event of a credential in a reload. -/
abbrev arrival (previous : List Credential) : Credential → Option Event :=
  Section.credentials.arrival previous

variable {previous : List Credential}

/-- A credential that arrives without a value drops it, if it listed it before. -/
theorem arrive_of_unlisted (names : (previous.map Credential.id).Nodup) (keys : Keyring)
    (unlisted : value ∉ new.revisions) :
    ∃ next, (arrival previous new).elim (.ok keys) keys.answer = .ok next ∧
      next.get? value = if Listed previous value new then none else keys.get? value := by
  by_cases known : new.id ∈ previous.map Credential.id
  · rcases List.mem_map.mp known with ⟨old, member, same⟩
    have listed_iff : Listed previous value new ↔ value ∈ old.revisions := by
      constructor
      · rintro ⟨other, present, named, listed⟩
        rwa [← List.inj_on_of_nodup_map names present member (named.trans same.symm)]
      · intro listed
        exact ⟨old, member, same, listed⟩
    rw [arrival, Section.credentials.arrival_of_mem names member same]
    split
    · next unchanged =>
      subst unchanged
      exact ⟨keys, rfl, by rw [if_neg (mt listed_iff.mp unlisted)]⟩
    · refine ⟨keys.update old new, answer_updated keys old new, ?_⟩
      rw [get?_update, List.count_eq_zero.mpr unlisted, if_neg unlisted]
      simp only [List.count_pos_iff, listed_iff]
  · have unheard : ¬Listed previous value new := by
      rintro ⟨old, member, same, _⟩
      exact known (List.mem_map.mpr ⟨old, member, same⟩)
    rw [arrival, Section.credentials.arrival_of_notMem known]
    refine ⟨keys.set new, answer_added keys new, ?_⟩
    rw [get?_set, if_neg unlisted, if_neg unheard]

/-- A credential that arrives with a value takes it, unless it stays as it is. -/
theorem arrive_of_listed (names : (previous.map Credential.id).Nodup)
    (once : ∀ old ∈ previous, old.revisions.Nodup) (keys : Keyring)
    (listed : value ∈ new.revisions) :
    ∃ next, (arrival previous new).elim (.ok keys) keys.answer = .ok next ∧
      next.get? value = if new ∈ previous then keys.get? value else some new := by
  by_cases known : new.id ∈ previous.map Credential.id
  · rcases List.mem_map.mp known with ⟨old, member, same⟩
    rw [arrival, Section.credentials.arrival_of_mem names member same]
    split
    · next unchanged =>
      subst unchanged
      exact ⟨keys, rfl, by rw [if_pos member]⟩
    · next changed =>
      have absent : new ∉ previous := by
        intro present
        exact changed (List.inj_on_of_nodup_map names member present same)
      have fewer : ¬new.revisions.count value < old.revisions.count value := by
        have atMost := List.nodup_iff_count_le_one.mp (once old member) value
        have atLeast := List.count_pos_iff.mpr listed
        omega
      refine ⟨keys.update old new, answer_updated keys old new, ?_⟩
      rw [get?_update, if_neg fewer, if_pos listed, if_neg absent]
  · have absent : new ∉ previous := fun present => known (List.mem_map_of_mem present)
    rw [arrival, Section.credentials.arrival_of_notMem known]
    refine ⟨keys.set new, answer_added keys new, ?_⟩
    rw [get?_set, if_pos listed, if_neg absent]

/-- A value that no arriving credential lists is dropped by those that listed it before. -/
theorem get?_arrivals_of_unlisted (names : (previous.map Credential.id).Nodup) (keys : Keyring)
    {items : List Credential} (unlisted : ∀ item ∈ items, value ∉ item.revisions) :
    (Batch.final answer keys (items.filterMap (arrival previous))).get? value =
      if ∃ item ∈ items, Listed previous value item then none else keys.get? value := by
  induction items generalizing keys with
  | nil => simp
  | cons item rest ih =>
      rcases List.forall_mem_cons.mp unlisted with ⟨head, tail⟩
      rcases arrive_of_unlisted names keys head with ⟨next, granted, answers⟩
      rw [(Batch.filterMap_cons_of_ok granted rest).2, ih next tail, answers]
      by_cases later : ∃ other ∈ rest, Listed previous value other
      · simp [later]
      · simp [later]

/-! ## From one manifest to the next -/

/-- A value of distinct values has one holder. -/
theorem eq_of_mem_revisions {items : List Credential}
    (distinct : (items.flatMap Credential.revisions).Nodup) {left right : Credential}
    (leftMember : left ∈ items) (rightMember : right ∈ items)
    (leftListed : value ∈ left.revisions) (rightListed : value ∈ right.revisions) :
    left = right := by
  by_contra differs
  have symmetric : Std.Symm (Function.onFun List.Disjoint Credential.revisions) :=
    ⟨fun _ _ apart => List.disjoint_symm apart⟩
  exact (List.nodup_flatMap.mp distinct).2.forall leftMember rightMember differs leftListed
    rightListed

theorem get?_loaded_of_listed {manifest : Manifest} (distinct : manifest.values.Nodup)
    (member : credential ∈ manifest.credentials) (listed : value ∈ credential.revisions) :
    (Gateway.loaded manifest).keys.get? value = some credential := by
  rw [get?_loaded, Manifest.holderOf?]
  cases found : manifest.credentials.reverse.find? (value ∈ ·.revisions) with
  | none =>
      exact absurd (List.find?_eq_none.mp found credential (List.mem_reverse.mpr member))
        (by simp [listed])
  | some other =>
      rw [eq_of_mem_revisions distinct (List.mem_reverse.mp (List.mem_of_find?_eq_some found))
        member (by simpa using List.find?_some found) listed]

theorem get?_loaded_of_unlisted {manifest : Manifest}
    (unlisted : ∀ item ∈ manifest.credentials, value ∉ item.revisions) :
    (Gateway.loaded manifest).keys.get? value = none := by
  rw [get?_loaded, Manifest.holderOf?, List.find?_eq_none]
  intro item member
  simpa using unlisted item (List.mem_reverse.mp member)

/-- The values of credentials, each with its credential. -/
def pairs (items : List Credential) : List (String × Credential) :=
  items.flatMap fun item => item.revisions.map (·, item)

theorem values_set (keys : Keyring) (credential : Credential) :
    (keys.set credential).values = (credential.revisions.map (·, credential)).foldl
      (fun dict pair => dict.insert pair.1 pair.2) keys.values := by
  rw [set]
  induction credential.revisions generalizing keys with
  | nil => rfl
  | cons first rest ih => exact ih (keys.register first credential)

theorem values_fill (keys : Keyring) (items : List Credential) :
    (Store.keys.fill keys items).values =
      (pairs items).foldl (fun dict pair => dict.insert pair.1 pair.2) keys.values := by
  induction items generalizing keys with
  | nil => rfl
  | cons item rest ih =>
      have entered : Batch.absorb Store.keys.react keys (.added (Store.keys.part.wrap item)) =
          keys.set item := Batch.absorb_of_ok (answer_added keys item)
      rw [Store.fill_cons, entered, ih, values_set, pairs, pairs, List.flatMap_cons,
        List.foldl_append]

/-- With distinct values, a loaded keyring has all of them. -/
theorem size_loaded {manifest : Manifest} (distinct : manifest.values.Nodup) :
    (Gateway.loaded manifest).keys.size = manifest.values.length := by
  have firsts : (pairs manifest.credentials).map Prod.fst = manifest.values := by
    rw [pairs, List.map_flatMap, Manifest.values]
    congr 1
    funext item
    rw [List.map_map]
    exact List.map_id _
  calc (Gateway.loaded manifest).keys.size
      = (Dict.ofList (pairs manifest.credentials)).size := by
        rw [size, keys_loaded, values_fill]
        rfl
    _ = (pairs manifest.credentials).length := Dict.size_ofList (firsts ▸ distinct)
    _ = manifest.values.length := by rw [← firsts, List.length_map]

/-- Before the next manifest is taken in, the values of what is gone are cleared. -/
def started (previous next : Manifest) : Keyring :=
  Batch.final answer (Gateway.loaded previous).keys
    ((Section.credentials.gone previous.credentials next.credentials).map
      fun item => .deleted (.credential item))

theorem get?_started (previous next : Manifest) (value : String) :
    (started previous next).get? value =
      if ∃ old ∈ Section.credentials.gone previous.credentials next.credentials,
          value ∈ old.revisions then none
      else (Gateway.loaded previous).keys.get? value :=
  get?_remove ..

theorem keys_reloaded (previous next : Manifest) :
    (Gateway.reloaded previous next).keys =
      Batch.final answer (started previous next)
        (next.credentials.filterMap (arrival previous.credentials)) :=
  (Store.keys.state_diff (Gateway.loaded previous) previous next).trans (Batch.final_append ..)

section Reload

variable {previous next : Manifest} (namesBefore : (previous.credentials.map Credential.id).Nodup)

include namesBefore in
/-- A value that the next manifest lacks leads nowhere. -/
theorem get?_reloaded_of_unlisted
    (unlisted : ∀ item ∈ next.credentials, value ∉ item.revisions) :
    (Gateway.reloaded previous next).keys.get? value = none := by
  rw [keys_reloaded, get?_arrivals_of_unlisted namesBefore _ unlisted, get?_started]
  split
  · rfl
  · next kept =>
    split
    · rfl
    · next left =>
      apply get?_loaded_of_unlisted
      intro old member listed
      by_cases named : old.id ∈ next.credentials.map Credential.id
      · rcases List.mem_map.mp named with ⟨new, present, same⟩
        exact kept ⟨new, present, old, member, same.symm, listed⟩
      · exact left ⟨old, Section.credentials.mem_gone_iff.mpr ⟨member, named⟩, listed⟩

include namesBefore in
/-- A value of the next manifest leads to its credential, unless a later one drops it. -/
theorem get?_reloaded_of_listed (valuesBefore : previous.values.Nodup)
    (namesAfter : (next.credentials.map Credential.id).Nodup) (valuesAfter : next.values.Nodup)
    {before after : List Credential} (order : next.credentials = before ++ new :: after)
    (listed : value ∈ new.revisions) :
    (Gateway.reloaded previous next).keys.get? value =
      if ∃ item ∈ after, Listed previous.credentials value item then none else some new := by
  have member : new ∈ next.credentials := by simp [order]
  have apart : ∀ item ∈ before ++ after, item.id ≠ new.id := by
    rw [order, List.map_append, List.map_cons, List.nodup_middle, ← List.map_append] at namesAfter
    intro item other same
    exact (List.nodup_cons.mp namesAfter).1 (same ▸ List.mem_map_of_mem other)
  have unlisted : ∀ item ∈ before ++ after, value ∉ item.revisions := by
    intro item other holds
    have present : item ∈ next.credentials := by
      rw [order]
      rcases List.mem_append.mp other with early | late
      · exact List.mem_append_left _ early
      · exact List.mem_append_right _ (List.mem_cons_of_mem _ late)
    exact apart item other (congrArg Credential.id
      (eq_of_mem_revisions valuesAfter present member holds listed))
  rcases List.forall_mem_append.mp unlisted with ⟨early, late⟩
  have once : ∀ old ∈ previous.credentials, old.revisions.Nodup :=
    (List.nodup_flatMap.mp valuesBefore).1
  obtain ⟨taken, granted, answers⟩ := arrive_of_listed namesBefore once
    (Batch.final answer (started previous next) (before.filterMap (arrival previous.credentials)))
    listed
  rw [keys_reloaded, order, List.filterMap_append, Batch.final_append,
    (Batch.filterMap_cons_of_ok granted after).2, get?_arrivals_of_unlisted namesBefore _ late,
    answers]
  congr 1
  split
  · next unchanged =>
    -- the value was the record's before as well, so no other credential drops it
    have owner : ∀ old ∈ previous.credentials, value ∈ old.revisions → old = new :=
      fun old present holds => eq_of_mem_revisions valuesBefore present unchanged holds listed
    rw [get?_arrivals_of_unlisted namesBefore _ early, if_neg, get?_started, if_neg,
      get?_loaded_of_listed valuesBefore unchanged listed]
    · rintro ⟨old, gone, holds⟩
      rcases Section.credentials.mem_gone_iff.mp gone with ⟨present, unnamed⟩
      exact unnamed (owner old present holds ▸ List.mem_map_of_mem member)
    · rintro ⟨item, first, old, present, named, holds⟩
      apply apart item (List.mem_append_left _ first)
      rw [← named, owner old present holds]
  · rfl

end Reload

end Keyring

namespace Manifest

/-- A manifest with two credentials. -/
def twoCredentials (first second : List String) : Manifest where
  credentials := [⟨⟨"default", "a"⟩, first⟩, ⟨⟨"default", "b"⟩, second⟩]

end Manifest

namespace Gateway

open Manifest

/-- A reload brings the values to those of the next manifest exactly when no credential takes a
value from one that comes later. -/
theorem reloaded_keys_iff {previous next : Manifest}
    (namesBefore : (previous.credentials.map Credential.id).Nodup)
    (valuesBefore : previous.values.Nodup)
    (namesAfter : (next.credentials.map Credential.id).Nodup) (valuesAfter : next.values.Nodup) :
    ((∀ value, (reloaded previous next).keys.get? value = (loaded next).keys.get? value) ∧
        (reloaded previous next).keys.size = next.values.length) ↔
      next.credentials.Pairwise fun taker giver => ¬TakesFrom previous.credentials taker giver := by
  constructor
  · rintro ⟨answers, _⟩
    rw [List.pairwise_iff_forall_sublist]
    rintro taker giver inOrder ⟨value, listed, taken⟩
    rcases List.cons_sublist_iff.mp inOrder with ⟨upTo, rest, order, first, later⟩
    rcases List.append_of_mem first with ⟨before, between, split⟩
    have whole : next.credentials = before ++ taker :: (between ++ rest) := by
      rw [order, split, List.append_assoc, List.cons_append]
    have lost := Keyring.get?_reloaded_of_listed namesBefore valuesBefore namesAfter valuesAfter
      whole listed
    rw [if_pos ⟨giver, List.mem_append_right _ (List.singleton_sublist.mp later), taken⟩, answers,
      Keyring.get?_loaded_of_listed valuesAfter (by simp [whole]) listed] at lost
    contradiction
  · intro inOrder
    have answers : ∀ value,
        (reloaded previous next).keys.get? value = (loaded next).keys.get? value := by
      intro value
      by_cases held : ∃ new ∈ next.credentials, value ∈ new.revisions
      · rcases held with ⟨new, member, listed⟩
        rcases List.append_of_mem member with ⟨before, after, order⟩
        rw [Keyring.get?_reloaded_of_listed namesBefore valuesBefore namesAfter valuesAfter order
          listed, Keyring.get?_loaded_of_listed valuesAfter member listed, if_neg]
        rintro ⟨giver, later, taken⟩
        rw [order, List.pairwise_append, List.pairwise_cons] at inOrder
        exact inOrder.2.1.1 giver later ⟨value, listed, taken⟩
      · have unlisted : ∀ item ∈ next.credentials, value ∉ item.revisions :=
          fun item member listed => held ⟨item, member, listed⟩
        rw [Keyring.get?_reloaded_of_unlisted namesBefore unlisted,
          Keyring.get?_loaded_of_unlisted unlisted]
    exact ⟨answers, (Keyring.size_congr answers).trans (Keyring.size_loaded valuesAfter)⟩

/-- A value can move to a credential that comes later. -/
theorem reloaded_keys_handover :
    ((∀ value, (reloaded (twoCredentials ["x", "y"] ["z"])
            (twoCredentials ["x"] ["y", "z"])).keys.get? value =
          (loaded (twoCredentials ["x"] ["y", "z"])).keys.get? value) ∧
        (reloaded (twoCredentials ["x", "y"] ["z"])
          (twoCredentials ["x"] ["y", "z"])).keys.size =
            (twoCredentials ["x"] ["y", "z"]).values.length) ∧
      (loaded (twoCredentials ["x", "y"] ["z"])).keys.get? "y" ≠
        (loaded (twoCredentials ["x"] ["y", "z"])).keys.get? "y" :=
  ⟨(reloaded_keys_iff (by decide) (by decide) (by decide) (by decide)).mpr (by decide),
    by decide +kernel⟩

/-- A value that moves to a credential that comes earlier is lost. -/
theorem reloaded_keys_lost :
    ¬∀ previous next : Manifest, (previous.credentials.map Credential.id).Nodup →
      previous.values.Nodup → (next.credentials.map Credential.id).Nodup → next.values.Nodup →
        (∀ value, (reloaded previous next).keys.get? value = (loaded next).keys.get? value) ∧
          (reloaded previous next).keys.size = next.values.length := by
  intro claim
  obtain ⟨answers, _⟩ := claim (twoCredentials ["x"] ["y", "z"]) (twoCredentials ["x", "y"] ["z"])
    (by decide) (by decide) (by decide) (by decide)
  have order : (twoCredentials ["x", "y"] ["z"]).credentials =
      [] ++ ⟨⟨"default", "a"⟩, ["x", "y"]⟩ :: [⟨⟨"default", "b"⟩, ["z"]⟩] := rfl
  have listed : "y" ∈ (⟨⟨"default", "a"⟩, ["x", "y"]⟩ : Credential).revisions := by decide
  have lost : (reloaded (twoCredentials ["x"] ["y", "z"])
      (twoCredentials ["x", "y"] ["z"])).keys.get? "y" = none := by
    rw [Keyring.get?_reloaded_of_listed (by decide) (by decide) (by decide) (by decide) order
      listed, if_pos (by decide)]
  have kept : (loaded (twoCredentials ["x", "y"] ["z"])).keys.get? "y" ≠ none := by
    decide +kernel
  exact kept ((answers "y").symm.trans lost)

end Gateway

end Tollgate
