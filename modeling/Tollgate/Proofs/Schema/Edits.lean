import Mathlib.Data.List.Nodup
import Tollgate.Schema.Strict

/-!
# Other ways to write the same record

The members of an object may stand in any order, and a member whose value is the default of its
field may be left out.  `Edit` is one such change at any depth; a `Shape` tells which default a
place has.  Edits keep what the decoders rely on: that no object names a member twice, and that a
value which made sense as a whole still does.
-/

namespace Tollgate.Json

/-- What stands at a place.  A record lists the fields that it knows, each with the default that a
missing field has and with the shape of its value. -/
inductive Shape where
  | leaf
  | list (element : Shape)
  | record (fields : List (String × Option Json × Shape))

namespace Shape

/-- What a record says of a field. -/
def field? : Shape → String → Option (Option Json × Shape)
  | record fields, name => fields.lookup name
  | _, _ => none

/-- The default of a field that has one. -/
def default? (shape : Shape) (name : String) : Option Json :=
  (shape.field? name).bind (·.1)

/-- The shape of a member's value. -/
def member (shape : Shape) (name : String) : Shape :=
  match shape.field? name with
  | some (_, value) => value
  | none => leaf

/-- The shape of an element. -/
def element : Shape → Shape
  | list element => element
  | _ => leaf

end Shape

/-- One change of a value that its reader should not notice.  Members are reordered whatever the
shape says; only a default may be dropped. -/
inductive Edit : Shape → Json → Json → Prop where
  | reorder {shape : Shape} {members reordered : List (String × Json)}
      (same : members.Perm reordered) :
      Edit shape (record members) (record reordered)
  | drop {shape : Shape} {name : String} {value : Json} {before after : List (String × Json)}
      (default : shape.default? name = some value) :
      Edit shape (record (before ++ (name, value) :: after)) (record (before ++ after))
  | member {shape : Shape} {name : String} {value edited : Json}
      {before after : List (String × Json)} (edit : Edit (shape.member name) value edited) :
      Edit shape (record (before ++ (name, value) :: after))
        (record (before ++ (name, edited) :: after))
  | element {shape : Shape} {value edited : Json} {before after : List Json}
      (edit : Edit shape.element value edited) :
      Edit shape (.array (before ++ value :: after)) (.array (before ++ edited :: after))

/-- A value that is neither an array nor an object. -/
def isScalar : Json → Bool
  | .array _ => false
  | .object _ => false
  | _ => true

/-- A value that has a shape: arrays and objects stand only where the shape has a list or a record,
and no object names a member twice. -/
inductive Shape.Fits : Shape → Json → Prop where
  | scalar {shape : Shape} {value : Json} (scalar : value.isScalar) : Fits shape value
  | array {shape : Shape} {elements : List Json}
      (fit : ∀ element ∈ elements, Fits shape element) :
      Fits (.list shape) (.array elements)
  | record {fields : List (String × Option Json × Shape)} {members : List (String × Json)}
      (distinct : (members.map (·.1)).Nodup)
      (fit : ∀ member ∈ members, Fits ((Shape.record fields).member member.1) member.2) :
      Fits (.record fields) (Json.record members)

theorem record_injective {members others : List (String × Json)}
    (same : record members = record others) : members = others := by
  have paired : Function.Injective fun member : String × Json => (some member.1, member.2) := by
    rintro ⟨name, value⟩ ⟨other, what⟩ equal
    simpa using equal
  exact (List.map_inj_right fun _ _ equal => paired equal).1 (Json.object.inj same)

namespace Shape.Fits

variable {shape : Shape} {value edited : Json}

theorem of_record {members : List (String × Json)} (fits : shape.Fits (Json.record members)) :
    (∃ fields, shape = .record fields) ∧ (members.map (·.1)).Nodup ∧
      ∀ member ∈ members, (shape.member member.1).Fits member.2 := by
  generalize same : Json.record members = value at fits
  cases fits with
  | scalar scalar =>
      subst same
      cases scalar
  | array fit => cases same
  | record distinct fit =>
      cases record_injective same
      exact ⟨⟨_, rfl⟩, distinct, fit⟩

theorem of_middle {name : String} {before after : List (String × Json)}
    (fits : shape.Fits (Json.record (before ++ (name, value) :: after))) :
    (shape.member name).Fits value :=
  fits.of_record.2.2 (name, value) (by simp)

theorem of_array {elements : List Json} (fits : shape.Fits (.array elements)) :
    (∃ inner, shape = .list inner) ∧ ∀ element ∈ elements, shape.element.Fits element := by
  cases fits with
  | scalar scalar => cases scalar
  | array fit => exact ⟨⟨_, rfl⟩, fit⟩

theorem not_array {fields : List (String × Option Json × Shape)} {elements : List Json}
    (fits : (Shape.record fields).Fits (.array elements)) : False :=
  nomatch fits.of_array.1

theorem not_record {inner : Shape} {members : List (String × Json)}
    (fits : (Shape.list inner).Fits (Json.record members)) : False :=
  nomatch fits.of_record.1

/-- There is nothing to change in a leaf. -/
theorem not_edit_leaf (fits : leaf.Fits value) : ¬Edit leaf value edited := by
  intro edit
  cases edit with
  | element => exact nomatch fits.of_array.1
  | _ => exact nomatch fits.of_record.1

/-- An edit keeps the shape. -/
theorem edit (edit : Edit shape value edited) (fits : shape.Fits value) : shape.Fits edited := by
  induction edit with
  | reorder same =>
      obtain ⟨⟨_, rfl⟩, distinct, fit⟩ := fits.of_record
      exact .record ((same.map _).nodup_iff.1 distinct) fun member found =>
        fit member (same.mem_iff.2 found)
  | drop =>
      obtain ⟨⟨_, rfl⟩, distinct, fit⟩ := fits.of_record
      simp only [List.forall_mem_append, List.forall_mem_cons] at fit
      rw [List.map_append, List.map_cons, List.nodup_middle] at distinct
      exact .record (by simpa using distinct.of_cons) (List.forall_mem_append.2 ⟨fit.1, fit.2.2⟩)
  | member _ ih =>
      obtain ⟨⟨_, rfl⟩, distinct, fit⟩ := fits.of_record
      simp only [List.forall_mem_append, List.forall_mem_cons] at fit
      refine .record (by simpa using distinct) ?_
      simp only [List.forall_mem_append, List.forall_mem_cons]
      exact ⟨fit.1, ih fit.2.1, fit.2.2⟩
  | element _ ih =>
      obtain ⟨⟨_, rfl⟩, fit⟩ := fits.of_array
      simp only [List.forall_mem_append, List.forall_mem_cons] at fit
      refine .array ?_
      simp only [List.forall_mem_append, List.forall_mem_cons]
      exact ⟨fit.1, ih fit.2.1, fit.2.2⟩

end Shape.Fits

/-! ### Values that make sense as a whole -/

theorem isSettled_iff {nested : Nested} :
    strict.isSettled nested = true ↔
      nested.value.isWhole = true ∧ nested.depth + nested.value.height ≤ heightLimit := by
  simp [strict]

theorem isSettled_record_iff {depth : Nat} {members : List (String × Json)} :
    strict.isSettled ⟨depth, record members⟩ = true ↔
      depth < heightLimit ∧ ∀ member ∈ members, strict.isSettled ⟨depth + 1, member.2⟩ = true := by
  simp only [isSettled_iff, record, isWhole, height]
  induction members with
  | nil => exact ⟨fun settled => ⟨settled.2, nofun⟩, fun settled => ⟨rfl, settled.1⟩⟩
  | cons first rest ih =>
      have room (a b : Nat) : depth + (1 + max a b) ≤ heightLimit ↔
          depth + 1 + a ≤ heightLimit ∧ depth + (1 + b) ≤ heightLimit := by omega
      simp only [List.map_cons, areWholeMembers, heightOfMembers, room, Option.isSome_some,
        Bool.true_and, Bool.and_eq_true, List.forall_mem_cons]
      grind

theorem isSettled_array_iff {depth : Nat} {elements : List Json} :
    strict.isSettled ⟨depth, .array elements⟩ = true ↔
      depth < heightLimit ∧ ∀ element ∈ elements, strict.isSettled ⟨depth + 1, element⟩ = true := by
  simp only [isSettled_iff, isWhole, height]
  induction elements with
  | nil => exact ⟨fun settled => ⟨settled.2, nofun⟩, fun settled => ⟨rfl, settled.1⟩⟩
  | cons first rest ih =>
      have room (a b : Nat) : depth + (1 + max a b) ≤ heightLimit ↔
          depth + 1 + a ≤ heightLimit ∧ depth + (1 + b) ≤ heightLimit := by omega
      simp only [areWholeElements, heightOfElements, room, Bool.and_eq_true, List.forall_mem_cons]
      grind

/-- An edit loses nothing that has to make sense, and nests no deeper. -/
theorem Edit.isSettled {shape : Shape} {value edited : Json} {depth : Nat}
    (edit : Edit shape value edited) (settled : strict.isSettled ⟨depth, value⟩ = true) :
    strict.isSettled ⟨depth, edited⟩ = true := by
  induction edit generalizing depth with
  | reorder same =>
      rw [isSettled_record_iff] at settled ⊢
      exact settled.imp_right fun members member found => members member (same.mem_iff.2 found)
  | drop =>
      rw [isSettled_record_iff] at settled ⊢
      simp only [List.forall_mem_append, List.forall_mem_cons] at settled ⊢
      obtain ⟨room, before, _, after⟩ := settled
      exact ⟨room, before, after⟩
  | member _ ih =>
      rw [isSettled_record_iff] at settled ⊢
      simp only [List.forall_mem_append, List.forall_mem_cons] at settled ⊢
      obtain ⟨room, before, here, after⟩ := settled
      exact ⟨room, before, ih here, after⟩
  | element _ ih =>
      rw [isSettled_array_iff] at settled ⊢
      simp only [List.forall_mem_append, List.forall_mem_cons] at settled ⊢
      obtain ⟨room, before, here, after⟩ := settled
      exact ⟨room, before, ih here, after⟩

end Tollgate.Json
