import Tollgate.Spaces
import Mathlib.Data.List.Induction

/-!
# Laws of dictionaries

A dictionary is known by its answers: `get?` fixes the number of entries, and what a list of pairs
leaves behind is, key by key, the last pair with the key.  One that is kept namespace by namespace
answers as if its names were keys.
-/

namespace Tollgate

universe u v w

/-- Of writes one after the other, the last one that concerns an answer decides it. -/
theorem foldl_last_write {σ : Type u} {α : Type v} {β : Type w} (write : σ → α → σ)
    (answer : σ → β) (concerns : α → Prop) [DecidablePred concerns] (written : α → β)
    (law : ∀ state item,
      answer (write state item) = if concerns item then written item else answer state)
    (items : List α) (state : σ) :
    answer (items.foldl write state) =
      ((items.reverse.find? (concerns ·)).map written).getD (answer state) := by
  induction items generalizing state with
  | nil => rfl
  | cons item rest ih =>
      rw [List.foldl_cons, ih, List.reverse_cons, List.find?_append, law]
      cases rest.reverse.find? (concerns ·) with
      | some later => rfl
      | none => by_cases hit : concerns item <;> simp [hit]

/-- Once all items that were put in are taken out again, an answer that was blank before is blank,
whatever an item concerns and however often it is listed. -/
theorem foldl_put_take {σ : Type u} {α : Type v} {β : Type w} (put take : σ → α → σ)
    (answer : σ → Option β) (concerns : α → Prop) [DecidablePred concerns]
    (spares : ∀ state item, ¬concerns item → answer (put state item) = answer state)
    (clears : ∀ state item,
      answer (take state item) = if concerns item then none else answer state)
    (items : List α) {state : σ} (blank : answer state = none) :
    answer (items.foldl take (items.foldl put state)) = none := by
  rw [foldl_last_write take answer concerns (fun _ => none) clears]
  cases found : items.reverse.find? (concerns ·) with
  | some item => rfl
  | none =>
      have foreign : ∀ item ∈ items, ¬concerns item := by
        intro item member
        simpa using List.find?_eq_none.mp found item (List.mem_reverse.mpr member)
      clear found
      rw [Option.map_none, Option.getD_none]
      induction items generalizing state with
      | nil => exact blank
      | cons item rest ih =>
          rw [List.forall_mem_cons] at foreign
          exact ih ((spares state item foreign.1).trans blank) foreign.2

namespace Dict

variable {κ : Type u} {α : Type v} [DecidableEq κ]

/-- A key leads to a value exactly when the pair is an entry. -/
theorem get?_eq_some_iff {dict : Dict κ α} {key : κ} {value : α} :
    dict.get? key = some value ↔ (key, value) ∈ dict.entries := by
  rcases dict with ⟨entries, distinct⟩
  change entries.lookup key = some value ↔ (key, value) ∈ entries
  induction entries with
  | nil => simp
  | cons entry rest ih =>
      rcases entry with ⟨found, held⟩
      rcases List.pairwise_cons.mp distinct with ⟨apart, tail⟩
      rw [List.lookup_cons, List.mem_cons]
      by_cases same : key = found
      · subst found
        have absent : (key, value) ∉ rest := fun member => apart _ member rfl
        simp [absent, eq_comm]
      · have differs : (key == found) = false := by simpa using same
        rw [differs, ih tail]
        simp [same]

omit [DecidableEq κ] in
theorem entries_nodup (dict : Dict κ α) : dict.entries.Nodup :=
  dict.distinct.imp fun apart same => apart (congrArg Prod.fst same)

/-- Dictionaries that give the same answers have equally many entries. -/
theorem size_congr {left right : Dict κ α}
    (same : ∀ key, left.get? key = right.get? key) : left.size = right.size := by
  have permuted : left.entries.Perm right.entries := by
    apply (List.perm_ext_iff_of_nodup left.entries_nodup right.entries_nodup).mpr
    rintro ⟨key, value⟩
    rw [← get?_eq_some_iff, ← get?_eq_some_iff, same]
  exact permuted.length_eq

theorem filter_eq_self_of_get?_eq_none {dict : Dict κ α} {key : κ}
    (absent : dict.get? key = none) :
    dict.entries.filter (·.1 ≠ key) = dict.entries := by
  apply List.filter_eq_self.mpr
  rintro ⟨found, value⟩ member
  rw [decide_eq_true_eq]
  rintro rfl
  rw [get?_eq_some_iff.mpr member] at absent
  contradiction

/-- Taking away what is not there changes nothing. -/
theorem size_erase_of_get?_eq_none {dict : Dict κ α} {key : κ}
    (absent : dict.get? key = none) : (dict.erase key).size = dict.size :=
  congrArg List.length (filter_eq_self_of_get?_eq_none absent)

theorem size_insert_of_get?_eq_none {dict : Dict κ α} {key : κ}
    (absent : dict.get? key = none) (value : α) :
    (dict.insert key value).size = dict.size + 1 :=
  congrArg (· + 1) (size_erase_of_get?_eq_none absent)

/-- Putting back what was taken away gives the same answers as before. -/
theorem get?_insert_erase {dict : Dict κ α} {key : κ} {value : α}
    (held : dict.get? key = some value) (other : κ) :
    ((dict.erase key).insert key value).get? other = dict.get? other := by
  rw [get?_insert, get?_erase]
  by_cases same : other = key
  · rw [if_pos same, same, held]
  · rw [if_neg same, if_neg same]

/-- Taking away an entry that is there leaves one less. -/
theorem size_erase_of_get?_eq_some {dict : Dict κ α} {key : κ} {value : α}
    (held : dict.get? key = some value) : (dict.erase key).size = dict.size - 1 := by
  have gone : (dict.erase key).get? key = none := by
    rw [get?_erase, if_pos rfl]
  have restored := size_congr (get?_insert_erase held)
  rw [size_insert_of_get?_eq_none gone] at restored
  omega

/-- Replacing an entry keeps their number. -/
theorem size_insert_of_get?_eq_some {dict : Dict κ α} {key : κ} {old : α}
    (held : dict.get? key = some old) (value : α) :
    (dict.insert key value).size = dict.size := by
  have present : (key, old) ∈ dict.entries := get?_eq_some_iff.mp held
  have positive : 0 < dict.size := List.length_pos_of_mem present
  change (dict.erase key).size + 1 = dict.size
  rw [size_erase_of_get?_eq_some held]
  omega

/-- A dictionary is empty exactly when it has no answer. -/
theorem isEmpty_eq_true_iff {dict : Dict κ α} :
    dict.isEmpty = true ↔ ∀ key, dict.get? key = none := by
  rw [isEmpty, List.isEmpty_iff]
  constructor
  · intro empty key
    rw [get?, empty, List.lookup_nil]
  · intro silent
    apply List.eq_nil_iff_forall_not_mem.mpr
    rintro ⟨key, value⟩ member
    rw [← get?_eq_some_iff, silent] at member
    contradiction

/-- A dictionary without answers is the empty one. -/
theorem eq_empty {dict : Dict κ α} (silent : ∀ key, dict.get? key = none) : dict = empty := by
  have hollow := isEmpty_eq_true_iff.mpr silent
  rcases dict with ⟨entries, distinct⟩
  cases List.isEmpty_iff.mp hollow
  rfl

/-- Entering pairs one after the other leaves the last pair with a key. -/
theorem get?_foldl_insert (pairs : List (κ × α)) (dict : Dict κ α) (key : κ) :
    (pairs.foldl (fun dict pair => dict.insert pair.1 pair.2) dict).get? key =
      ((pairs.reverse.find? (·.1 = key)).map (·.2)).or (dict.get? key) := by
  have written := foldl_last_write (fun (dict : Dict κ α) pair => dict.insert pair.1 pair.2)
    (·.get? key) (·.1 = key) (fun pair => some pair.2)
    (fun dict pair => by simp only [get?_insert, @eq_comm _ key]) pairs dict
  rw [written]
  cases pairs.reverse.find? (·.1 = key) <;> rfl

/-- Of the pairs with one key the last counts. -/
theorem get?_ofList (pairs : List (κ × α)) (key : κ) :
    (ofList pairs).get? key = (pairs.reverse.find? (·.1 = key)).map (·.2) := by
  rw [ofList, get?_foldl_insert, get?_empty, Option.or_none]

theorem get?_ofList_eq_none {pairs : List (κ × α)} {key : κ} (absent : key ∉ pairs.map (·.1)) :
    (ofList pairs).get? key = none := by
  rw [get?_ofList, Option.map_eq_none_iff, List.find?_eq_none]
  intro pair member same
  exact absent (List.mem_map.mpr ⟨pair, List.mem_reverse.mp member, of_decide_eq_true same⟩)

/-- Pairs with distinct keys all become entries. -/
theorem size_ofList {pairs : List (κ × α)} (distinct : (pairs.map (·.1)).Nodup) :
    (ofList pairs).size = pairs.length := by
  induction pairs using List.reverseRecOn with
  | nil => rfl
  | append_singleton rest pair ih =>
      rw [List.map_append, List.nodup_append] at distinct
      rcases distinct with ⟨earlier, _, apart⟩
      have absent : pair.1 ∉ rest.map (·.1) := fun member => apart _ member pair.1 (by simp) rfl
      rw [ofList, List.foldl_append, List.length_append]
      exact (size_insert_of_get?_eq_none (get?_ofList_eq_none absent) pair.2).trans
        (congrArg (· + 1) (ih earlier))

end Dict

namespace Spaces

variable {α : Type u}

@[simp]
theorem get?_empty (id : ResourceName) : (empty : Spaces α).get? id = none :=
  rfl

theorem get?_insert (map : Spaces α) (id other : ResourceName) (value : α) :
    (map.insert id value).get? other = if other = id then some value else map.get? other := by
  rcases id with ⟨space, name⟩
  rcases other with ⟨home, other⟩
  simp only [ResourceName.mk.injEq, get?, insert, Dict.get?_insert]
  by_cases here : home = space
  · subst home
    simp only [if_true, true_and, Option.bind_some, Dict.get?_insert]
    cases map.spaces.get? space <;> rfl
  · simp only [here, if_false, false_and]

/-- With the last name of a namespace nothing is lost but that name. -/
theorem get?_erase (map : Spaces α) (id other : ResourceName) :
    (map.erase id).get? other = if other = id then none else map.get? other := by
  rcases id with ⟨space, name⟩
  rcases other with ⟨home, other⟩
  simp only [ResourceName.mk.injEq, get?, erase]
  cases found : map.spaces.get? space with
  | none =>
      by_cases here : home = space
      · simp [here, found]
      · simp [here]
  | some names =>
      have rest : ∀ other, (names.erase name).get? other =
          if other = name then none else names.get? other := names.get?_erase name
      by_cases here : home = space
      · subst home
        simp only [found, true_and, Option.bind_some, ← rest]
        split
        · next deserted =>
          rw [Dict.get?_erase, if_pos rfl, Dict.isEmpty_eq_true_iff.mp deserted]
          rfl
        · rw [Dict.get?_insert, if_pos rfl]
          rfl
      · simp only [here, false_and, if_false]
        split
        · rw [Dict.get?_erase, if_neg here]
        · rw [Dict.get?_insert, if_neg here]

/-- Names are all that keeps a namespace, so without any there is none. -/
theorem eq_empty {map : Spaces α} (silent : ∀ id, map.get? id = none) : map = empty := by
  have deserted : ∀ space, map.spaces.get? space = none := by
    intro space
    cases found : map.spaces.get? space with
    | none => rfl
    | some names =>
        have useful := map.inhabited space names found
        have nameless : names.isEmpty = true := by
          rw [Dict.isEmpty_eq_true_iff]
          intro name
          have answer := silent ⟨space, name⟩
          rwa [get?, found] at answer
        rw [nameless] at useful
        contradiction
  rcases map with ⟨spaces, inhabited⟩
  cases Dict.eq_empty deserted
  rfl

/-- There is no namespace exactly when no name has a value. -/
theorem isEmpty_eq_true_iff {map : Spaces α} :
    map.isEmpty = true ↔ ∀ id, map.contains id = false := by
  constructor
  · intro bare id
    rw [contains, get?, Dict.isEmpty_eq_true_iff.mp bare id.space]
    rfl
  · intro unknown
    have silent : ∀ id, map.get? id = none := by
      intro id
      simpa [contains] using unknown id
    rw [eq_empty silent]
    rfl

theorem isEmpty_congr {left right : Spaces α}
    (same : ∀ id, left.contains id = right.contains id) : left.isEmpty = right.isEmpty := by
  rw [Bool.eq_iff_iff, isEmpty_eq_true_iff, isEmpty_eq_true_iff]
  simp only [same]

end Spaces

end Tollgate
