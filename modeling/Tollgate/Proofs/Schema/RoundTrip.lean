import Mathlib.Logic.Relation
import Tollgate.Proofs.Json.RoundTrip
import Tollgate.Proofs.Schema.Keeping
import Tollgate.Schema.Encode

/-!
# Encoders and decoders that go together

What goes together with a decoder writes values that have the decoder's shape and that it decodes
to what they were, and the decoder does not notice edits.  This holds of the parts that records are
made of, and it passes from parts to options, lists and records.
-/

namespace Tollgate.Json

variable {α : Type} {shape : Shape}

/-- An encoder and a decoder that go together, also after edits.  The margin is how many arrays and
objects there may be inside a value that is decoded as a whole. -/
structure RoundTrips (shape : Shape) (margin : Nat) (encode : α → Json)
    (decode : Nested → Option α) : Prop where
  fits (value : α) : shape.Fits (encode value)
  reads {depth : Nat} (value : α) (room : depth + margin ≤ heightLimit) :
    decode ⟨depth, encode value⟩ = some value
  keeps : Keeps shape decode

namespace RoundTrips

/-- A decoder that looks at scalars only. -/
theorem scalar {encode : α → Json} {decode : Nested → Option α}
    (isScalar : ∀ value, (encode value).isScalar = true)
    (reads : ∀ {depth} value, decode ⟨depth, encode value⟩ = some value) :
    RoundTrips .leaf 0 encode decode where
  fits value := .scalar (isScalar value)
  reads value _ := reads value
  keeps := .leaf decode

theorem text : RoundTrips .leaf 0 Json.text strict.text? :=
  scalar (fun _ => rfl) fun _ => rfl

theorem flag : RoundTrips .leaf 0 Json.bool strict.flag? :=
  scalar (fun _ => rfl) fun _ => rfl

theorem signed?_integer {depth : Nat} (value : Int) :
    strict.signed? ⟨depth, integer value⟩ = some value :=
  Number.integer?_ofInt value

theorem unsigned?_integer {depth : Nat} (value : Nat) :
    strict.unsigned? ⟨depth, integer value⟩ = some value := by
  simp [strict, integer]

theorem amount : RoundTrips .leaf 0 (fun amount : Int64 => integer amount.toInt) strict.amount? :=
  scalar (fun _ => rfl) fun amount => by
    rw [Reading.amount?, signed?_integer, Option.bind_some,
      if_pos ⟨amount.minValue_le_toInt, amount.toInt_le⟩, Int64.ofInt_toInt]

theorem status : RoundTrips .leaf 0 (fun status : UInt16 => integer status.toNat) strict.status? :=
  scalar (fun _ => rfl) fun status => by
    simp [Reading.status?, unsigned?_integer, UInt16.toNat_lt_size]

theorem millis : RoundTrips .leaf 0 (fun millis : UInt64 => integer millis.toNat) strict.millis? :=
  scalar (fun _ => rfl) fun millis => by
    simp [Reading.millis?, unsigned?_integer, UInt64.toNat_lt_size]

theorem unit : RoundTrips .leaf 0 RateUnit.toJson strict.rateUnit? :=
  scalar (fun _ => rfl) RateUnit.ofWord?_word

variable {margin : Nat} {encode : α → Json} {decode : Nested → Option α}

theorem optional (trips : RoundTrips shape margin encode decode)
    (present : ∀ value depth, strict.isNull ⟨depth, encode value⟩ = false) :
    RoundTrips shape margin (Json.optional encode) (strict.option? decode) where
  fits
    | none => .scalar rfl
    | some value => trips.fits value
  reads
    | none, _ => rfl
    | some value, room => by
        rw [Json.optional, Reading.option?, present, if_neg Bool.false_ne_true,
          trips.reads value room]
        rfl
  keeps := .option trips.keeps

theorem list (trips : RoundTrips shape margin encode decode) :
    RoundTrips (.list shape) (margin + 1) (fun values => .array (values.map encode))
      (strict.list? decode) where
  fits values := .array (List.forall_mem_map.2 fun value _ => trips.fits value)
  reads {depth} values room := by
    change ((values.map encode).map (⟨depth + 1, ·⟩)).mapM decode = _
    rw [mapM_eq_some_iff, List.forall₂_map_left_iff, List.forall₂_map_left_iff]
    exact List.forall₂_same.2 fun value _ => trips.reads value (by omega)
  keeps := .list trips.keeps

theorem texts : RoundTrips (.list .leaf) 1 Json.texts strict.texts? :=
  text.list

theorem optionalText : RoundTrips .leaf 0 (Json.optional Json.text) (strict.option? strict.text?) :=
  text.optional fun _ _ => rfl

theorem optionalUnit :
    RoundTrips .leaf 0 (Json.optional RateUnit.toJson) (strict.option? strict.rateUnit?) :=
  unit.optional fun _ _ => rfl

theorem verbs : RoundTrips (.list .leaf) 1 Json.texts strict.verbs? :=
  texts

theorem mono {more : Nat} (trips : RoundTrips shape margin encode decode) (le : margin ≤ more) :
    RoundTrips shape more encode decode where
  fits := trips.fits
  reads value room := trips.reads value (by omega)
  keeps := trips.keeps

/-- No number of edits changes what is read: one edit keeps the shape and the result. -/
theorem reads_of_edits (trips : RoundTrips shape margin encode decode)
    (room : margin ≤ heightLimit) {value : α} {document : Json}
    (edits : Relation.ReflTransGen (Edit shape) (encode value) document) :
    decode (.top document) = some value := by
  -- The shape is what the result needs on its way from one edit to the next.
  suffices shape.Fits document ∧ decode (.top document) = some value from this.2
  induction edits with
  | refl => exact ⟨trips.fits value, trips.reads value (by omega)⟩
  | tail _ edit ih =>
      obtain ⟨fits, read⟩ := ih
      exact ⟨fits.edit edit, trips.keeps fits edit read⟩

end RoundTrips

/-- A record that has every field of its shape. -/
theorem fits_record {fields : List (String × Option Json × Shape)}
    {members : List (String × Json)} (same : members.map (·.1) = fields.map (·.1))
    (distinct : (fields.map (·.1)).Nodup)
    (fit : members.Forall fun member => ((Shape.record fields).member member.1).Fits member.2) :
    (Shape.record fields).Fits (record members) :=
  .record (same ▸ distinct) (List.forall_iff_forall_mem.1 fit)

/-- A record that has every field is decoded from its members. -/
theorem read_record {names : List String} {members : List (String × Json)}
    {read : Fields Nested → Option α} {value : α} {depth : Nat}
    (same : members.map (·.1) = names) (distinct : names.Nodup)
    (decoded : read (nest depth members) = some value) :
    (strict.fields? names ⟨depth, record members⟩ >>= read) = some value := by
  have all : members.filter (·.1 ∈ names) = members := List.filter_eq_self.2 fun member found => by
    simpa [← same] using ⟨member.2, found⟩
  rw [fields?_record names (same ▸ distinct), all]
  exact decoded

end Tollgate.Json
