import Mathlib.Data.List.Forall2
import Tollgate.Proofs.Schema.Edits
import Tollgate.Schema.Decode

/-!
# Decoders that do not notice edits

A decoder keeps its result when a value that it decodes is edited.  The fields of a record are
looked up by name, so an edit shows in at most one of them: as an edited value, or as a default
that is gone.  What decoders are made of keeps results when its parts do.
-/

namespace Tollgate.Json

variable {α β : Type} {shape : Shape} {depth : Nat}

/-- An edit of what a decoder reads leaves its result. -/
def Keeps (shape : Shape) (decode : Nested → Option α) : Prop :=
  ∀ ⦃depth : Nat⦄ ⦃value edited : Json⦄ ⦃result : α⦄, shape.Fits value → Edit shape value edited →
    decode ⟨depth, value⟩ = some result → decode ⟨depth, edited⟩ = some result

/-! ### What stands in a record -/

/-- Members one level below a value. -/
def nest (depth : Nat) (members : List (String × Json)) : Fields Nested :=
  members.map fun member => (member.1, ⟨depth + 1, member.2⟩)

theorem members?_record (members : List (String × Json)) :
    strict.members? ⟨depth, record members⟩ = some (nest depth members) := by
  change (members.map fun member => (some member.1, member.2)).mapM _ = _
  rw [List.mapM_map]
  induction members with
  | nil => rfl
  | cons first rest ih =>
      rw [List.mapM_cons, ih]
      rfl

theorem lookup_nest (members : List (String × Json)) (name : String) :
    (nest depth members).lookup name = (members.lookup name).map (⟨depth + 1, ·⟩) := by
  induction members with
  | nil => rfl
  | cons first rest ih =>
      rw [nest, List.map_cons, List.lookup_cons, List.lookup_cons]
      split
      · rfl
      · exact ih

/-- A record without repeated names has the fields among its members. -/
theorem fields?_record (names : List String) {members : List (String × Json)}
    (distinct : (members.map (·.1)).Nodup) :
    strict.fields? names ⟨depth, record members⟩ =
      some (nest depth (members.filter (·.1 ∈ names))) := by
  have known : (nest depth members).filter (·.1 ∈ names) =
      nest depth (members.filter (·.1 ∈ names)) := by
    rw [nest, List.filter_map]
    rfl
  have once : ((nest depth (members.filter (·.1 ∈ names))).map (·.1)).Nodup := by
    rw [nest, List.map_map]
    exact distinct.sublist (List.filter_sublist.map _)
  rw [Reading.fields?, members?_record]
  simp only [known]
  exact if_pos once

theorem lookup_known (names : List String) (members : List (String × Json)) (name : String) :
    (nest depth (members.filter (·.1 ∈ names))).lookup name =
      if name ∈ names then (members.lookup name).map (⟨depth + 1, ·⟩) else none := by
  have filtered : (members.filter (·.1 ∈ names)).lookup name =
      if name ∈ names then members.lookup name else none := by
    induction members with
    | nil => simp
    | cons first rest ih => grind
  rw [lookup_nest, filtered]
  split <;> rfl

/-- What becomes of one field. -/
inductive Alters (shape : Shape) (name : String) : Option Nested → Option Nested → Prop where
  | same (field : Option Nested) : Alters shape name field field
  | edited {depth : Nat} {value edited : Json} (fits : (shape.member name).Fits value)
      (edit : Edit (shape.member name) value edited) :
      Alters shape name (some ⟨depth, value⟩) (some ⟨depth, edited⟩)
  | dropped {depth : Nat} {value : Json} (default : shape.default? name = some value) :
      Alters shape name (some ⟨depth, value⟩) none

theorem lookup_eq_some_iff_mem {members : List (String × Json)}
    (distinct : (members.map (·.1)).Nodup) {name : String} {value : Json} :
    members.lookup name = some value ↔ (name, value) ∈ members := by
  induction members with
  | nil => simp
  | cons first rest ih =>
      obtain ⟨outside, distinct⟩ := List.nodup_cons.1 distinct
      grind

theorem lookup_eq_none {members : List (String × Json)} {name : String}
    (outside : name ∉ members.map (·.1)) : members.lookup name = none := by
  refine List.lookup_eq_none_iff.2 fun member found => ?_
  have apart : name ≠ member.1 := fun same => outside (List.mem_map.2 ⟨member, found, same.symm⟩)
  simpa using apart

section Middle

variable {before after : List (String × Json)} {name : String} {value : Json}

theorem lookup_middle (distinct : ((before ++ (name, value) :: after).map (·.1)).Nodup) :
    (before ++ (name, value) :: after).lookup name = some value :=
  (lookup_eq_some_iff_mem distinct).2 (by simp)

theorem lookup_middle_of_ne {other : String} (apart : other ≠ name) :
    (before ++ (name, value) :: after).lookup other = (before ++ after).lookup other := by
  rw [List.lookup_append, List.lookup_append, List.lookup_cons,
    show (other == name) = false by simpa using apart]

theorem lookup_without_middle
    (distinct : ((before ++ (name, value) :: after).map (·.1)).Nodup) :
    (before ++ after).lookup name = none := by
  rw [List.map_append, List.map_cons, List.nodup_middle, ← List.map_append] at distinct
  exact lookup_eq_none (List.nodup_cons.1 distinct).1

end Middle

/-- An edit of a record is a record, and shows in one field at most. -/
theorem Edit.of_record {members : List (String × Json)} {edited : Json}
    (edit : Edit shape (record members) edited) (fits : shape.Fits (record members)) :
    ∃ altered, edited = record altered ∧ ∀ name depth,
      Alters shape name ((members.lookup name).map (⟨depth, ·⟩))
        ((altered.lookup name).map (⟨depth, ·⟩)) := by
  obtain ⟨_, distinct, _⟩ := fits.of_record
  have kept := fits.edit edit
  -- The case split needs a variable in the record's place.
  generalize same : record members = value at edit kept
  cases edit with
  | @reorder _ _ reordered perm =>
      cases record_injective same
      refine ⟨reordered, rfl, fun name depth => ?_⟩
      have found : members.lookup name = reordered.lookup name := Option.ext fun value => by
        rw [lookup_eq_some_iff_mem distinct, lookup_eq_some_iff_mem kept.of_record.2.1,
          perm.mem_iff]
      exact found ▸ .same _
  | @drop _ dropped value before after default =>
      cases record_injective same
      refine ⟨before ++ after, rfl, fun name depth => ?_⟩
      by_cases here : name = dropped
      · subst here
        rw [lookup_middle distinct, lookup_without_middle distinct]
        exact .dropped default
      · rw [lookup_middle_of_ne here]
        exact .same _
  | @member _ changed value edited before after edit =>
      cases record_injective same
      refine ⟨before ++ (changed, edited) :: after, rfl, fun name depth => ?_⟩
      by_cases here : name = changed
      · subst here
        rw [lookup_middle distinct, lookup_middle kept.of_record.2.1]
        exact .edited fits.of_middle edit
      · rw [lookup_middle_of_ne here, lookup_middle_of_ne here]
        exact .same _
  | element => cases same

/-- What is read off the fields of a record stays when the fields change as by an edit. -/
def KeepsFields (shape : Shape) (read : Fields Nested → Option α) : Prop :=
  ∀ ⦃fields altered : Fields Nested⦄ ⦃result : α⦄,
    (∀ name, Alters shape name (fields.lookup name) (altered.lookup name)) →
      read fields = some result → read altered = some result

namespace KeepsFields

theorem const (result : Option α) : KeepsFields shape fun _ => result :=
  fun _ _ _ _ read => read

theorem bind {first : Fields Nested → Option α} {next : α → Fields Nested → Option β}
    (head : KeepsFields shape first) (tail : ∀ value, KeepsFields shape (next value)) :
    KeepsFields shape fun fields => first fields >>= fun value => next value fields := by
  intro fields altered result alters read
  obtain ⟨value, found, read⟩ := Option.bind_eq_some_iff.1 read
  exact Option.bind_eq_some_iff.2 ⟨value, head alters found, tail value alters read⟩

variable {name : String} {decode : Nested → Option α}

/-- What is decoded from a field.  A default that is gone must have been decoded to what stands for
a missing field. -/
theorem field {inner : Shape} {default : Option Json} {missing : Option α}
    (known : shape.field? name = some (default, inner)) (keeps : Keeps inner decode)
    (agrees : ∀ json ∈ default, ∀ depth, decode ⟨depth, json⟩ = missing) :
    KeepsFields shape fun fields => (fields.lookup name).elim missing decode := by
  intro fields altered result alters read
  have here := alters name
  dsimp only at read ⊢
  generalize fields.lookup name = before at here read
  generalize altered.lookup name = after at here
  cases here with
  | same => exact read
  | edited fits edit =>
      rw [Shape.member, known] at fits edit
      exact keeps fits edit read
  | @dropped depth value found =>
      rw [Shape.default?, known] at found
      exact (agrees value found depth).symm.trans read

/-- A field that must be there, and that has no default. -/
theorem required {inner : Shape} (known : shape.field? name = some (none, inner))
    (keeps : Keeps inner decode) :
    KeepsFields shape fun fields => fields.required name decode := by
  have split (fields : Fields Nested) :
      fields.required name decode = (fields.lookup name).elim none decode := by
    rw [Fields.required]
    cases fields.lookup name <;> rfl
  simp only [split]
  exact field known keeps fun json absent => absurd absent (Option.not_mem_none json)

/-- A field that is decoded to the same value when it is not there as when it has its default. -/
theorem withDefault {inner : Shape} {json : Json} {default : α}
    (known : shape.field? name = some (some json, inner)) (keeps : Keeps inner decode)
    (agrees : ∀ depth, decode ⟨depth, json⟩ = some default) :
    KeepsFields shape fun fields => fields.withDefault name default decode := by
  have split (fields : Fields Nested) : fields.withDefault name default decode =
      (fields.lookup name).elim (some default) decode := by
    rw [Fields.withDefault]
    cases fields.lookup name <;> rfl
  simp only [split]
  exact field known keeps fun _ only => Option.some.inj only ▸ agrees

end KeepsFields

/-- What is edited where a record stands is a record. -/
theorem Edit.exists_record {fields : List (String × Option Json × Shape)} {value edited : Json}
    (edit : Edit (.record fields) value edited) (fits : (Shape.record fields).Fits value) :
    ∃ members, value = record members := by
  cases edit with
  | element => exact fits.not_array.elim
  | _ => exact ⟨_, rfl⟩

theorem Edit.isNull {value edited : Json} (edit : Edit shape value edited) (depth : Nat) :
    strict.isNull ⟨depth, value⟩ = false ∧ strict.isNull ⟨depth, edited⟩ = false := by
  cases edit <;> exact ⟨rfl, rfl⟩

theorem mapM_eq_some_iff {τ : Type} {decode : τ → Option α} {values : List τ} {results : List α} :
    values.mapM decode = some results ↔
      List.Forall₂ (fun value result => decode value = some result) values results := by
  induction values generalizing results with
  | nil => simp [eq_comm]
  | cons first rest ih =>
      rw [List.mapM_cons, List.forall₂_cons_left_iff]
      simp only [Option.bind_eq_bind, Option.bind_eq_some_iff, Option.pure_def, Option.some.injEq,
        ih]
      grind

/-- Elements are decoded one by one. -/
theorem mapM_middle {τ : Type} {decode : τ → Option α} {before after : List τ} {value edited : τ}
    {results : List α} (kept : ∀ result, decode value = some result → decode edited = some result)
    (read : (before ++ value :: after).mapM decode = some results) :
    (before ++ edited :: after).mapM decode = some results := by
  rw [List.mapM_append, List.mapM_cons] at read ⊢
  cases found : decode value with
  | none => simp [found] at read
  | some result => rwa [kept result found, ← found]

namespace Keeps

variable {decode : Nested → Option α}

/-- There is nothing to edit in a leaf. -/
theorem leaf (decode : Nested → Option α) : Keeps .leaf decode :=
  fun _ _ _ _ fits edit _ => absurd edit fits.not_edit_leaf

theorem list (keeps : Keeps shape decode) : Keeps (.list shape) (strict.list? decode) := by
  intro depth value edited results fits edit read
  cases edit with
  | element edit =>
      change (List.map _ _).mapM decode = _ at read
      change (List.map _ _).mapM decode = _
      rw [List.map_append, List.map_cons] at read ⊢
      exact mapM_middle (fun _ => keeps (fits.of_array.2 _ (by simp)) edit) read
  | _ => exact fits.not_record.elim

theorem texts : Keeps (.list .leaf) strict.texts? :=
  list (leaf _)

theorem option (keeps : Keeps shape decode) : Keeps shape (strict.option? decode) := by
  intro depth value edited result fits edit read
  obtain ⟨before, after⟩ := edit.isNull depth
  rw [Reading.option?, before, if_neg Bool.false_ne_true] at read
  obtain ⟨found, here, rfl⟩ := Option.map_eq_some_iff.1 read
  rw [Reading.option?, after, if_neg Bool.false_ne_true, keeps fits edit here]
  rfl

/-- A record is decoded from its fields. -/
theorem record {fields : List (String × Option Json × Shape)} (names : List String)
    {read : Fields Nested → Option α} (keeps : KeepsFields (.record fields) read) :
    Keeps (.record fields) fun value => strict.fields? names value >>= read := by
  intro depth value edited result fits edit decoded
  obtain ⟨members, rfl⟩ := edit.exists_record fits
  have kept := fits.edit edit
  obtain ⟨altered, rfl, alters⟩ := edit.of_record fits
  dsimp only at decoded ⊢
  rw [fields?_record names fits.of_record.2.1] at decoded
  rw [fields?_record names kept.of_record.2.1]
  refine keeps (fun name => ?_) decoded
  rw [lookup_known, lookup_known]
  split
  · exact alters name (depth + 1)
  · exact .same none

end Keeps

end Tollgate.Json
