/-!
# Readings

The shape of a resource does not depend on the format of its text.  A reading tells what the
values of one format offer; the decoders are written once, over any reading.
-/

namespace Tollgate

/-- What the values `τ` of a format offer to a decoder. -/
structure Reading (τ : Type) where
  /-- Whether a value stands for an absent option. -/
  isNull : τ → Bool
  /-- A value as a text. -/
  text? : τ → Option String
  /-- A value as a truth value. -/
  flag? : τ → Option Bool
  /-- A value as a signed integer. -/
  signed? : τ → Option Int
  /-- A value as an unsigned integer. -/
  unsigned? : τ → Option Nat
  /-- A value as a list. -/
  elements? : τ → Option (List τ)
  /-- A value as a list of members. -/
  members? : τ → Option (List (String × τ))
  /-- A value that is a text and is not made into one. -/
  word? : τ → Option String
  /-- The alternative that a value names. -/
  choice? : τ → Option String
  /-- Whether a value makes sense to its innermost part, also where nothing asks for it. -/
  isSettled : τ → Bool
  /-- Whether a list that stands for a record must not be longer than the record. -/
  exact : Bool

/-- The values that a record has for its fields. -/
abbrev Fields (τ : Type) := List (String × τ)

namespace Fields

variable {τ α : Type}

/-- A field that must be there. -/
def required (fields : Fields τ) (name : String) (decode : τ → Option α) : Option α :=
  (fields.lookup name).bind decode

/-- A field that has a value also when it is not there. -/
def withDefault (fields : Fields τ) (name : String) (default : α) (decode : τ → Option α) :
    Option α :=
  match fields.lookup name with
  | none => some default
  | some value => decode value

end Fields

namespace Reading

variable {τ α : Type} (reading : Reading τ)

/-- The fields of a record, from members or from a list in the order of the fields.  A member that
is no field is passed over, and a field must not be given twice. -/
def fields? (names : List String) (value : τ) : Option (Fields τ) :=
  match reading.members? value with
  | some members =>
      let known := members.filter (·.1 ∈ names)
      if (known.map (·.1)).Nodup then some known else none
  | none =>
      match reading.elements? value with
      | none => none
      | some elements =>
          if reading.exact && names.length < elements.length then none
          else some (names.zip elements)

/-- A list of decoded values. -/
def list? (decode : τ → Option α) (value : τ) : Option (List α) :=
  (reading.elements? value).bind (·.mapM decode)

/-- A value that may be absent. -/
def option? (decode : τ → Option α) (value : τ) : Option (Option α) :=
  if reading.isNull value then some none else (decode value).map some

/-- A list of texts. -/
def texts? (value : τ) : Option (List String) :=
  reading.list? reading.text? value

end Reading

end Tollgate
