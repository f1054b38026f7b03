import Tollgate.Trie
import Tollgate.Proofs.Dictionary
import Mathlib.Data.List.Infix

/-!
# Tries as maps

A trie that grew by its own operations keeps the children of every node in ascending order and no
node without value and children below the root.  On such a trie every operation acts on the stored
values as on a map from addresses, and a walk finds the value at the longest stored prefix.
-/

namespace Tollgate

universe u v

namespace Branches

variable {α : Type u}

/-- Every node below has a value or children, and stands before its later siblings. -/
def Canonical : Branches α → Prop
  | nil => True
  | cons segment value below rest =>
      (∀ other, (rest.child? other).isSome → segment < other) ∧
        (value.isSome ∨ below ≠ nil) ∧ below.Canonical ∧ rest.Canonical

theorem child?_put (segment other : String) (child : Trie α) (branches : Branches α) :
    (branches.put segment child).child? other =
      if other = segment then some child else branches.child? other := by
  by_cases same : other = segment
  · rw [if_pos same, same, child?_put_self]
  · rw [if_neg same, child?_put_of_ne same]

theorem Canonical.child {branches : Branches α} (canonical : branches.Canonical)
    {segment : String} {child : Trie α} (found : branches.child? segment = some child) :
    child.branches.Canonical ∧ child.isEmpty = false := by
  induction branches with
  | nil => simp at found
  | cons first value below rest _ ih =>
      rcases canonical with ⟨_, useful, canonicalBelow, canonicalRest⟩
      unfold child? at found
      split at found
      · cases found
        refine ⟨canonicalBelow, ?_⟩
        cases value <;> cases below <;> simp_all [Trie.isEmpty, isNil]
      · exact ih canonicalRest found

/-- No later sibling has the segment of the first child. -/
theorem Canonical.child?_first {first : String} {value : Option α} {below others : Branches α}
    (canonical : (cons first value below others).Canonical) : others.child? first = none := by
  rw [Option.eq_none_iff_forall_ne_some]
  intro child found
  exact String.lt_irrefl first (canonical.1 first (Option.isSome_of_mem found))

/-- Taking away a child leaves the others. -/
theorem Canonical.child?_drop {branches : Branches α} (canonical : branches.Canonical)
    (segment other : String) :
    (branches.drop segment).child? other =
      if other = segment then none else branches.child? other := by
  induction branches with
  | nil => simp [drop]
  | cons first value below rest _ ih =>
      have single := canonical.child?_first
      rcases canonical with ⟨_, _, _, canonicalRest⟩
      unfold drop
      by_cases here : segment = first
      · subst first
        rw [if_pos rfl]
        by_cases same : other = segment
        · rw [if_pos same, same, single]
        · rw [if_neg same, child?, if_neg same]
      · rw [if_neg here, child?, ih canonicalRest, child?]
        by_cases same : other = segment
        · subst other
          rw [if_neg here, if_pos rfl, if_pos rfl]
        · rw [if_neg same, if_neg same]

/-- A child that became useless goes, any other takes its place, and its siblings stay. -/
theorem Canonical.child?_prune {branches : Branches α} (canonical : branches.Canonical)
    (segment other : String) (child : Trie α) :
    (if child.isEmpty then branches.drop segment else branches.put segment child).child? other =
      if other = segment then (if child.isEmpty then none else some child)
      else branches.child? other := by
  split
  · exact canonical.child?_drop segment other
  · exact child?_put segment other child branches

theorem isNil_put (segment : String) (child : Trie α) (branches : Branches α) :
    (branches.put segment child).isNil = false := by
  cases branches with
  | nil => rfl
  | cons first value below rest =>
      unfold put
      split
      · rfl
      · split <;> rfl

theorem isNil_of_child? {branches : Branches α} {segment : String} {child : Trie α}
    (found : branches.child? segment = some child) : branches.isNil = false := by
  cases branches with
  | nil => simp at found
  | cons => rfl

theorem Canonical.put {branches : Branches α} (canonical : branches.Canonical)
    (segment : String) {child : Trie α} (useful : child.isEmpty = false)
    (canonicalChild : child.branches.Canonical) : (branches.put segment child).Canonical := by
  have kept : child.value.isSome ∨ child.branches ≠ nil := by
    cases holds : child.value <;> cases below : child.branches <;>
      simp_all [Trie.isEmpty, isNil]
  induction branches with
  | nil => exact ⟨by simp, kept, canonicalChild, trivial⟩
  | cons first value below rest _ ih =>
      rcases canonical with ⟨before, usefulFirst, canonicalBelow, canonicalRest⟩
      unfold Branches.put
      split
      · next same =>
        subst first
        exact ⟨before, kept, canonicalChild, canonicalRest⟩
      · next differs =>
        split
        · next less =>
          refine ⟨?_, kept, canonicalChild, before, usefulFirst, canonicalBelow, canonicalRest⟩
          intro other found
          unfold child? at found
          split at found
          · next same => exact same ▸ less
          · exact String.lt_trans less (before other found)
        · next notLess =>
          refine ⟨?_, usefulFirst, canonicalBelow, ih canonicalRest⟩
          intro other found
          rw [child?_put] at found
          split at found
          · next same =>
            subst other
            exact Std.lt_of_le_of_ne (String.not_lt.mp notLess) (Ne.symm differs)
          · exact before other found

theorem Canonical.drop {branches : Branches α} (canonical : branches.Canonical)
    (segment : String) : (branches.drop segment).Canonical := by
  induction branches with
  | nil => trivial
  | cons first value below rest _ ih =>
      rcases canonical with ⟨before, useful, canonicalBelow, canonicalRest⟩
      unfold Branches.drop
      split
      · exact canonicalRest
      · refine ⟨?_, useful, canonicalBelow, ih canonicalRest⟩
        intro other found
        rw [canonicalRest.child?_drop] at found
        split at found
        · contradiction
        · exact before other found

end Branches

namespace Trie

variable {α : Type u}

/-- Every node below the root has a value or children, and siblings are in ascending order. -/
def Canonical (trie : Trie α) : Prop :=
  trie.branches.Canonical

theorem canonical_empty : (empty : Trie α).Canonical :=
  trivial

theorem get?_of_isEmpty {trie : Trie α} (hollow : trie.isEmpty = true) (segments : List String) :
    trie.get? segments = none := by
  rcases trie with ⟨value, branches⟩
  cases value <;> cases branches <;> simp [isEmpty, Branches.isNil] at hollow
  exact get?_empty segments

/-- Storing a value changes the answer at its address only. -/
theorem get?_insert (trie : Trie α) (segments other : List String) (value : α) :
    (trie.insert segments value).2.get? other =
      if other = segments then some value else trie.get? other := by
  induction segments generalizing trie other with
  | nil => cases other <;> simp [insert, get?]
  | cons segment rest ih =>
      cases other with
      | nil => simp [insert, get?]
      | cons first others =>
          simp only [insert, get?, Branches.child?_put]
          by_cases same : first = segment
          · subst first
            rw [if_pos rfl]
            simp only [ih, List.cons.injEq, true_and]
            cases trie.branches.child? segment <;> simp
          · simp [same]

/-- Storing items one after the other leaves the last item of an address. -/
theorem get?_foldl_insert {β : Type v} (addressOf : β → List String) (valueOf : β → α)
    (items : List β) (trie : Trie α) (address : List String) :
    (items.foldl (fun trie item => (trie.insert (addressOf item) (valueOf item)).2) trie).get?
        address =
      ((items.reverse.find? (addressOf · = address)).map valueOf).or (trie.get? address) := by
  have written := foldl_last_write
    (fun (trie : Trie α) item => (trie.insert (addressOf item) (valueOf item)).2)
    (·.get? address) (addressOf · = address) (fun item => some (valueOf item))
    (fun trie item => by simp only [get?_insert, @eq_comm _ address]) items trie
  rw [written]
  cases items.reverse.find? (addressOf · = address) <;> rfl

/-- Changing a value changes the answer at its address only. -/
theorem get?_modify (change : α → α) (trie : Trie α) (segments other : List String) :
    (trie.modify change segments).get? other =
      if other = segments then (trie.get? other).map change else trie.get? other := by
  induction segments generalizing trie other with
  | nil => cases other <;> simp [modify, get?]
  | cons segment rest ih =>
      cases found : trie.branches.child? segment with
      | none =>
          simp only [modify, found]
          split
          · next same => simp [same, get?, found]
          · rfl
      | some child =>
          cases other with
          | nil => simp [modify, found, get?]
          | cons first others =>
              simp only [modify, found, get?, Branches.child?_put]
              by_cases same : first = segment
              · subst first
                simp only [if_pos, ih, found, List.cons.injEq, true_and]
              · simp [same]

/-- Removing a value changes the answer at its address only, whatever nodes go with it. -/
theorem Canonical.get?_erase {trie : Trie α} (canonical : trie.Canonical)
    (segments other : List String) :
    (trie.erase segments).2.get? other =
      if other = segments then none else trie.get? other := by
  induction segments generalizing trie other with
  | nil => cases other <;> simp [erase, get?]
  | cons segment rest ih =>
      cases found : trie.branches.child? segment with
      | none =>
          simp only [erase, found]
          split
          · next same => simp [same, get?, found]
          · rfl
      | some child =>
          have below := ih (Branches.Canonical.child canonical found).1
          cases other with
          | nil => simp [erase, found, get?]
          | cons first others =>
              simp only [erase, found]
              simp only [get?, Branches.Canonical.child?_prune canonical]
              by_cases same : first = segment
              · subst first
                simp only [if_true, found, List.cons.injEq, true_and]
                rw [← below others]
                split
                · next hollow =>
                  split at hollow
                  · next useless => exact (get?_of_isEmpty useless others).symm
                  · contradiction
                · next kept shape =>
                  split at shape
                  · contradiction
                  · cases shape
                    rfl
              · simp [same]

theorem isEmpty_insert (trie : Trie α) (segments : List String) (value : α) :
    (trie.insert segments value).2.isEmpty = false := by
  cases segments with
  | nil => simp [insert, isEmpty]
  | cons segment rest => simp [insert, isEmpty, Branches.isNil_put]

theorem isEmpty_modify (change : α → α) (trie : Trie α) (segments : List String) :
    (trie.modify change segments).isEmpty = trie.isEmpty := by
  cases segments with
  | nil => simp [modify, isEmpty]
  | cons segment rest =>
      cases found : trie.branches.child? segment with
      | none => simp only [modify, found]
      | some child =>
          simp [modify, found, isEmpty, Branches.isNil_put, Branches.isNil_of_child? found]

theorem Canonical.insert {trie : Trie α} (canonical : trie.Canonical) (segments : List String)
    (value : α) : (trie.insert segments value).2.Canonical := by
  induction segments generalizing trie with
  | nil => exact canonical
  | cons segment rest ih =>
      have below : ((trie.branches.child? segment).getD empty).Canonical := by
        cases found : trie.branches.child? segment with
        | none => exact canonical_empty
        | some child => exact (Branches.Canonical.child canonical found).1
      exact Branches.Canonical.put canonical segment (isEmpty_insert _ rest value) (ih below)

theorem Canonical.modify {trie : Trie α} (canonical : trie.Canonical) (change : α → α)
    (segments : List String) : (trie.modify change segments).Canonical := by
  induction segments generalizing trie with
  | nil => exact canonical
  | cons segment rest ih =>
      cases found : trie.branches.child? segment with
      | none => simpa only [Trie.modify, found] using canonical
      | some child =>
          rcases Branches.Canonical.child canonical found with ⟨below, useful⟩
          simp only [Trie.modify, found]
          exact Branches.Canonical.put canonical segment
            ((isEmpty_modify change child rest).trans useful) (ih below)

theorem Canonical.erase {trie : Trie α} (canonical : trie.Canonical) (segments : List String) :
    (trie.erase segments).2.Canonical := by
  induction segments generalizing trie with
  | nil => exact canonical
  | cons segment rest ih =>
      cases found : trie.branches.child? segment with
      | none => simpa only [Trie.erase, found] using canonical
      | some child =>
          have below := ih (Branches.Canonical.child canonical found).1
          simp only [Trie.erase, found, Canonical]
          split
          · exact Branches.Canonical.drop canonical segment
          · next useful =>
            exact Branches.Canonical.put canonical segment (Bool.eq_false_iff.mpr useful) below

/-- A node that is kept for its values has some, so children without any value are no children. -/
theorem branches_eq_nil {branches : Branches α} (canonical : branches.Canonical)
    (silent : ∀ segments, (Trie.mk none branches).get? segments = none) : branches = .nil := by
  induction branches with
  | nil => rfl
  | cons segment value below rest ihBelow _ =>
      rcases canonical with ⟨_, useful, canonicalBelow, _⟩
      have child : ∀ segments, (Trie.mk value below).get? segments = none := by
        intro segments
        simpa [get?, Branches.child?] using silent (segment :: segments)
      have bare : value = none := child []
      subst bare
      have hollow := ihBelow canonicalBelow child
      simp [hollow] at useful

/-- A trie without values has no nodes either. -/
theorem Canonical.eq_empty {trie : Trie α} (canonical : trie.Canonical)
    (silent : ∀ segments, trie.get? segments = none) : trie = empty := by
  rcases trie with ⟨value, branches⟩
  have bare : value = none := silent []
  subst bare
  have hollow : branches = .nil := branches_eq_nil canonical silent
  subst hollow
  rfl

/-- A walk finds the value at the longest prefix that holds one. -/
theorem deepest_eq_findSome? (trie : Trie α) (path : List String) :
    trie.deepest path = path.inits.reverse.findSome? trie.get? := by
  induction path generalizing trie with
  | nil => simp [deepest, get?]
  | cons segment rest ih =>
      simp only [deepest, List.inits_cons, List.reverse_cons, List.findSome?_append,
        ← List.map_reverse, List.findSome?_map]
      cases found : trie.branches.child? segment with
      | none =>
          have unanswered : rest.inits.reverse.findSome? (trie.get? ∘ (segment :: ·)) = none := by
            apply List.findSome?_eq_none_iff.mpr
            intro longer _
            simp [get?, found]
          rw [unanswered]
          simp [get?]
      | some child =>
          simp [Function.comp_def, get?, found, ih]

/-- A walk that comes to a value at its end has found it. -/
theorem deepest_of_get? {trie : Trie α} {path : List String} {value : α}
    (stored : trie.get? path = some value) : trie.deepest path = some value := by
  induction path generalizing trie with
  | nil => exact stored
  | cons segment rest ih =>
      rw [get?] at stored
      rw [deepest]
      cases found : trie.branches.child? segment with
      | none =>
          rw [found] at stored
          contradiction
      | some child =>
          rw [found] at stored
          simp only [ih stored, Option.some_or]

end Trie

end Tollgate
