import Tollgate.Proofs.Dictionary
import Tollgate.Proofs.Gateway.Stores
import Mathlib.Data.String.Basic

/-!
# The answers of a keyring

A keyring is known by which credential each value leads to.  The merge behind a rotation drops a
value exactly when the old list has more occurrences of it than the new one.
-/

namespace Tollgate

namespace Keyring

@[simp]
theorem get?_empty (value : String) : empty.get? value = none :=
  Dict.get?_empty value

theorem get?_register (keys : Keyring) (value : String) (credential : Credential)
    (other : String) :
    (keys.register value credential).get? other =
      if other = value then some credential else keys.get? other :=
  Dict.get?_insert ..

theorem get?_revoke (keys : Keyring) (value other : String) :
    (keys.revoke value).get? other = if other = value then none else keys.get? other :=
  Dict.get?_erase ..

/-- Storing a credential lets all its values lead to it. -/
theorem get?_set (keys : Keyring) (credential : Credential) (value : String) :
    (keys.set credential).get? value =
      if value ∈ credential.revisions then some credential else keys.get? value := by
  rw [set]
  induction credential.revisions generalizing keys with
  | nil => simp
  | cons first rest ih =>
      rw [List.foldl_cons, ih, get?_register]
      by_cases later : value ∈ rest
      · simp [later]
      · simp [later]

/-- Revoking values lets each of them lead nowhere. -/
theorem get?_revokeAll (keys : Keyring) (values : List String) (value : String) :
    (keys.revokeAll values).2.get? value = if value ∈ values then none else keys.get? value := by
  induction values generalizing keys with
  | nil => simp [revokeAll]
  | cons first rest ih =>
      change ((keys.revoke first).revokeAll rest).2.get? value = _
      rw [ih, get?_revoke]
      by_cases later : value ∈ rest
      · simp [later]
      · simp [later]

private theorem count_eq_zero_of_lt {values : List String} {value : String}
    (below : ∀ other ∈ values, value < other) : values.count value = 0 :=
  List.count_eq_zero.mpr fun member => lt_irrefl value (below value member)

private theorem below_of_sorted {first value : String} {rest : List String}
    (sorted : (first :: rest).Pairwise (· ≤ ·)) (less : value < first) :
    ∀ other ∈ first :: rest, value < other := by
  intro other member
  rcases List.mem_cons.mp member with rfl | later
  · exact less
  · exact lt_of_lt_of_le less ((List.pairwise_cons.mp sorted).1 other later)

/-- Walking two sorted lists drops what the old one has more often, and registers all else that
the new one has. -/
theorem get?_rotate (keys : Keyring) (credential : Credential) {olds news : List String}
    (sortedOlds : olds.Pairwise (· ≤ ·)) (sortedNews : news.Pairwise (· ≤ ·)) (value : String) :
    (keys.rotate credential olds news).get? value =
      if news.count value < olds.count value then none
      else if value ∈ news then some credential else keys.get? value := by
  induction keys, olds, news using rotate.induct credential with
  | case1 keys => simp [rotate]
  | case2 keys old olds ih =>
      rw [rotate, ih sortedOlds.of_cons sortedNews, get?_revoke]
      by_cases here : value = old
      · simp [here]
      · simp [here, Ne.symm here]
  | case3 keys new news ih =>
      rw [rotate, ih sortedOlds sortedNews.of_cons, get?_register]
      by_cases here : value = new
      · simp [here]
      · simp [here]
  | case4 keys olds old news ih =>
      rw [rotate, if_pos rfl, ih sortedOlds.of_cons sortedNews.of_cons, get?_register]
      by_cases here : value = old
      · simp [here]
      · simp [here, Ne.symm here]
  | case5 keys old olds new news differs less ih =>
      rw [rotate, if_neg differs, if_pos less, ih sortedOlds.of_cons sortedNews, get?_revoke]
      by_cases here : value = old
      · subst here
        -- the new list starts above the dropped value, so it does not have it at all
        have missing := count_eq_zero_of_lt (below_of_sorted sortedNews less)
        have absent := List.count_eq_zero.mp missing
        simp [missing, absent]
      · simp [here, Ne.symm here]
  | case6 keys old olds new news differs notLess ih =>
      rw [rotate, if_neg differs, if_neg notLess, ih sortedOlds sortedNews.of_cons, get?_register]
      have less : new < old := lt_of_le_of_ne (not_lt.mp notLess) (Ne.symm differs)
      by_cases here : value = new
      · subst here
        have missing := count_eq_zero_of_lt (below_of_sorted sortedOlds less)
        simp [missing]
      · simp [here, Ne.symm here]

theorem ascending_sorted (values : List String) : (ascending values).Pairwise (· ≤ ·) := by
  have transitive : ∀ left middle right : String,
      decide (left ≤ middle) = true → decide (middle ≤ right) = true →
        decide (left ≤ right) = true := by
    intro left middle right first second
    exact decide_eq_true (le_trans (of_decide_eq_true first) (of_decide_eq_true second))
  have total : ∀ left right : String, (decide (left ≤ right) || decide (right ≤ left)) = true := by
    intro left right
    rcases le_total left right with less | less
    · simp [less]
    · simp [less]
  exact (List.pairwise_mergeSort transitive total values).imp of_decide_eq_true

theorem ascending_perm (values : List String) : (ascending values).Perm values :=
  List.mergeSort_perm values _

/-- An update drops the values that the old version lists more often, lets the others of the new
version lead to it, and leaves all else alone. -/
theorem get?_update (keys : Keyring) (old new : Credential) (value : String) :
    (keys.update old new).get? value =
      if new.revisions.count value < old.revisions.count value then none
      else if value ∈ new.revisions then some new else keys.get? value := by
  rw [update, get?_rotate keys new (ascending_sorted _) (ascending_sorted _)]
  simp only [(ascending_perm _).count_eq, (ascending_perm _).mem_iff]

/-- Keyrings that give the same answers have equally many values. -/
theorem size_congr {left right : Keyring} (same : ∀ value, left.get? value = right.get? value) :
    left.size = right.size :=
  Dict.size_congr same

theorem delete_eq_error_iff {keys : Keyring} {credential : Credential} {refusal : Refusal} :
    keys.delete credential = .error refusal ↔
      credential.revisions = [] ∧ refusal = .noRevisions credential.id := by
  rw [delete]
  split
  · next bare => simp [bare, eq_comm]
  · next useful => simp [useful]

/-! ## Events -/

/-- The answer of the credentials to an event. -/
abbrev answer : Keyring → Event → Except Refusal Keyring :=
  Store.keys.react

theorem answer_added (keys : Keyring) (credential : Credential) :
    keys.answer (.added (.credential credential)) = .ok (keys.set credential) := by
  change Section.credentials.react reactions keys (.added (Section.credentials.wrap credential)) = _
  rw [Section.react_added, reactions]

theorem answer_updated (keys : Keyring) (old new : Credential) :
    keys.answer (.updated (.credential old) (.credential new)) = .ok (keys.update old new) := by
  change Section.credentials.react reactions keys
    (.updated (Section.credentials.wrap old) (Section.credentials.wrap new)) = _
  rw [Section.react_updated, reactions]

/-- Removing a credential clears its values; without any, the refusal changes nothing either. -/
theorem get?_absorb_deleted (keys : Keyring) (credential : Credential) (value : String) :
    (Batch.absorb answer keys (.deleted (.credential credential))).get? value =
      if value ∈ credential.revisions then none else keys.get? value := by
  by_cases bare : credential.revisions = []
  · have denied : keys.answer (.deleted (.credential credential)) =
        .error (.noRevisions credential.id) := by
      change (keys.delete credential).map (·.2) = _
      rw [delete, if_pos bare]
      rfl
    simp only [Batch.absorb, denied, bare, List.not_mem_nil, if_false]
  · have granted : keys.answer (.deleted (.credential credential)) =
        .ok (keys.revokeAll credential.revisions).2 := by
      change (keys.delete credential).map (·.2) = _
      rw [delete, if_neg bare]
      rfl
    rw [Batch.absorb_of_ok granted, get?_revokeAll]

end Keyring

namespace Event

/-- Whether a credential that an event carries lists a value. -/
def names (value : String) (event : Event) : Bool :=
  event.resources.any fun
    | .credential credential => value ∈ credential.revisions
    | _ => false

/-- Whether the credential that an event adds, or leaves after an update, lists a value. -/
def issues (value : String) : Event → Bool
  | added (.credential credential) => value ∈ credential.revisions
  | updated _ (.credential credential) => value ∈ credential.revisions
  | _ => false

/-- Whether an event drops a value: an update of a credential that lists it by one that does not,
or the removal of a credential that lists it. -/
def drops (value : String) : Event → Bool
  | updated (.credential old) (.credential new) => value ∈ old.revisions ∧ value ∉ new.revisions
  | deleted (.credential credential) => value ∈ credential.revisions
  | _ => false

end Event

namespace Keyring

/-- What becomes of the credential under a value when an event is taken in: it stays, or the value
leads nowhere, or it leads to a credential of the event. -/
inductive Outcome (value : String) (event : Event) (before : Option Credential) :
    Option Credential → Prop where
  | kept (spared : event.drops value = false) : Outcome value event before before
  | revoked (named : event.names value = true) : Outcome value event before none
  | issued (credential : Credential) (carried : .credential credential ∈ event.resources)
      (listed : value ∈ credential.revisions) (issues : event.issues value = true)
      (spared : event.drops value = false) : Outcome value event before (some credential)

theorem outcome_absorb (keys : Keyring) (event : Event) (value : String) :
    Outcome value event (keys.get? value) ((Batch.absorb answer keys event).get? value) := by
  cases event with
  | added resource =>
      cases resource
      case credential credential =>
        rw [Batch.absorb_of_ok (answer_added keys credential), get?_set]
        split
        · next listed =>
          exact .issued credential (List.mem_singleton_self _) listed (decide_eq_true listed) rfl
        · exact .kept rfl
      all_goals exact .kept rfl
  | updated old new =>
      cases old <;> cases new
      case credential.credential old new =>
        rw [Batch.absorb_of_ok (answer_updated keys old new), get?_update]
        split
        · next fewer =>
          have listed : value ∈ old.revisions := List.count_pos_iff.mp (Nat.zero_lt_of_lt fewer)
          exact .revoked (by simp [Event.names, Event.resources, listed])
        · next enough =>
          split
          · next listed =>
            exact .issued new (by simp [Event.resources]) listed (decide_eq_true listed)
              (by simp [Event.drops, listed])
          · next unlisted =>
            refine .kept ?_
            rw [Nat.not_lt, List.count_eq_zero.mpr unlisted, Nat.le_zero,
              List.count_eq_zero] at enough
            simp [Event.drops, enough]
      all_goals exact .kept rfl
  | deleted resource =>
      cases resource
      case credential credential =>
        rw [get?_absorb_deleted]
        split
        · next listed => exact .revoked (by simp [Event.names, Event.resources, listed])
        · next unlisted => exact .kept (decide_eq_false unlisted)
      all_goals exact .kept rfl

/-- Every value leads to a credential that lists it. -/
def Faithful (keys : Keyring) : Prop :=
  ∀ value credential, keys.get? value = some credential → value ∈ credential.revisions

theorem faithful_empty : empty.Faithful :=
  fun _ _ found => nomatch found

theorem Faithful.absorb {keys : Keyring} (faithful : keys.Faithful) (event : Event) :
    (Batch.absorb answer keys event).Faithful := by
  intro value credential found
  have outcome := keys.outcome_absorb event value
  generalize known : keys.get? value = before at outcome
  rw [found] at outcome
  cases outcome with
  | kept => exact faithful value credential known
  | issued _ _ listed => exact listed

theorem faithful_final (events : List Event) : (Batch.final answer .empty events).Faithful :=
  Batch.final_keeps faithful_empty fun event _ _ faithful => faithful.absorb event

/-- An event that drops a value leaves nothing under it. -/
theorem get?_absorb_of_drops (keys : Keyring) {event : Event} {value : String}
    (dropped : event.drops value = true) : (Batch.absorb answer keys event).get? value = none := by
  have outcome := keys.outcome_absorb event value
  generalize keys.get? value = before, (Batch.absorb answer keys event).get? value = after
    at outcome ⊢
  cases outcome with
  | kept spared => rw [spared] at dropped; contradiction
  | revoked => rfl
  | issued _ _ _ _ spared => rw [spared] at dropped; contradiction

/-- A value that leads nowhere does so until an event issues it. -/
theorem get?_absorb_of_unissued {keys : Keyring} {event : Event} {value : String}
    (unknown : keys.get? value = none) (unissued : event.issues value = false) :
    (Batch.absorb answer keys event).get? value = none := by
  have outcome := keys.outcome_absorb event value
  generalize (Batch.absorb answer keys event).get? value = after at outcome ⊢
  cases outcome with
  | kept => exact unknown
  | revoked => rfl
  | issued _ _ _ issues => rw [unissued] at issues; contradiction

theorem get?_final_of_unissued {keys : Keyring} {events : List Event} {value : String}
    (unknown : keys.get? value = none) (unissued : ∀ event ∈ events, event.issues value = false) :
    (Batch.final answer keys events).get? value = none := by
  apply Batch.final_keeps (motive := fun keys : Keyring => keys.get? value = none) unknown
  intro event member keys unknown
  exact get?_absorb_of_unissued unknown (unissued event member)

end Keyring

end Tollgate
