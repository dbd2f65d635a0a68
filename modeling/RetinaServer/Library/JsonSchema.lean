import Mathlib.Data.List.Basic
import Mathlib.Order.Lattice

/-! The part of JSON Schema that describes flat documents: bounded numbers, bounded strings, null,
alternatives, and objects with required and with no further members. What a value is comes from a
reading of it, so that the documents may be of any type. -/
namespace JsonSchema

/-- How values `ν` are read as documents whose numbers are in `κ`. -/
structure Reading (ν : Type u) (κ : Type v) where
  isNull : ν → Bool
  number : ν → Option κ
  /-- The length of a string, in characters. -/
  length : ν → Option Nat
  /-- The names of an object's members. -/
  names : ν → Option (List String)
  member : ν → String → Option ν

/-- A keyword that is left out sets no bound. -/
structure NumberBounds (κ : Type v) where
  minimum : Option κ := none
  exclusiveMinimum : Option κ := none
  maximum : Option κ := none
  exclusiveMaximum : Option κ := none

inductive Schema (κ : Type v) where
  | null
  | number (bounds : NumberBounds κ)
  | string (minLength maxLength : Option Nat)
  | anyOf (alternatives : List (Schema κ))
  | object (properties : List (String × Schema κ)) (required : List String) (additionalProperties : Bool)

variable {ν : Type u} {κ : Type v} [LinearOrder κ]

def NumberBounds.holds (bounds : NumberBounds κ) (x : κ) : Bool :=
  bounds.minimum.all (fun low => decide (low ≤ x)) && bounds.exclusiveMinimum.all (fun low => decide (low < x)) &&
    bounds.maximum.all (fun high => decide (x ≤ high)) && bounds.exclusiveMaximum.all (fun high => decide (x < high))

def lengthHolds (minLength maxLength : Option Nat) (n : Nat) : Bool :=
  minLength.all (fun low => decide (low ≤ n)) && maxLength.all fun high => decide (n ≤ high)

mutual
def Schema.accepts (r : Reading ν κ) : Schema κ → ν → Bool
  | .null, value => r.isNull value
  | .number bounds, value => (r.number value).any bounds.holds
  | .string minLength maxLength, value => (r.length value).any (lengthHolds minLength maxLength)
  | .anyOf alternatives, value => acceptsAny r alternatives value
  | .object properties required additionalProperties, value =>
      acceptsMembers r properties value && (r.names value).any fun names =>
        required.all (fun name => decide (name ∈ names)) &&
          (additionalProperties || names.all fun name => decide (name ∈ properties.map Prod.fst))

def acceptsAny (r : Reading ν κ) : List (Schema κ) → ν → Bool
  | [], _ => false
  | schema :: rest, value => schema.accepts r value || acceptsAny r rest value

/-- A property constrains the member of its name, where there is one. -/
def acceptsMembers (r : Reading ν κ) : List (String × Schema κ) → ν → Bool
  | [], _ => true
  | (name, schema) :: rest, value => (r.member value name).all (fun child => schema.accepts r child) &&
      acceptsMembers r rest value
end

/-- The alternatives of a schema or null. -/
def Schema.orNull (schema : Schema κ) : Schema κ := .anyOf [schema, .null]

theorem acceptsMembers_iff (r : Reading ν κ) (properties : List (String × Schema κ)) (value : ν) :
    acceptsMembers r properties value = true ↔
      ∀ property ∈ properties, ∀ child, r.member value property.1 = some child → property.2.accepts r child = true := by
  induction properties with
  | nil => simp [acceptsMembers]
  | cons property rest ih =>
    obtain ⟨name, schema⟩ := property
    cases found : r.member value name <;> simp [acceptsMembers, ih, found]

@[simp] theorem accepts_orNull (r : Reading ν κ) (schema : Schema κ) (value : ν) :
    schema.orNull.accepts r value = (schema.accepts r value || r.isNull value) := by
  simp [Schema.orNull, Schema.accepts, acceptsAny]

/-- An object schema that closes its objects: every property holds of its member, and the members are
the required ones and otherwise among the properties. -/
theorem accepts_closed_iff (r : Reading ν κ) (properties : List (String × Schema κ)) (required : List String) (value : ν) :
    (Schema.object properties required false).accepts r value = true ↔
      (∀ property ∈ properties, ∀ child, r.member value property.1 = some child → property.2.accepts r child = true) ∧
      ∃ names, r.names value = some names ∧ (∀ name ∈ required, name ∈ names) ∧
        ∀ name ∈ names, name ∈ properties.map Prod.fst := by
  rw [Schema.accepts, Bool.and_eq_true, acceptsMembers_iff]
  cases r.names value <;> simp

/-- Two values of one reading. -/
structure Alike (r : Reading ν κ) (value value' : ν) : Prop where
  isNull : r.isNull value = r.isNull value'
  number : r.number value = r.number value'
  length : r.length value = r.length value'
  names : r.names value = r.names value'
  member : r.member value = r.member value'

theorem acceptsMembers_congr (r : Reading ν κ) (same : r.member value = r.member value')
    (properties : List (String × Schema κ)) : acceptsMembers r properties value = acceptsMembers r properties value' := by
  rw [Bool.eq_iff_iff, acceptsMembers_iff, acceptsMembers_iff, same]

mutual
/-- A schema sees no more of a value than its reading. -/
theorem accepts_congr (r : Reading ν κ) (alike : Alike r value value') :
    ∀ schema : Schema κ, schema.accepts r value = schema.accepts r value'
  | .null => by rw [Schema.accepts, Schema.accepts, alike.isNull]
  | .number bounds => by rw [Schema.accepts, Schema.accepts, alike.number]
  | .string minLength maxLength => by rw [Schema.accepts, Schema.accepts, alike.length]
  | .anyOf alternatives => by
      rw [Schema.accepts, Schema.accepts]
      exact acceptsAny_congr r alike alternatives
  | .object properties required additionalProperties => by
      rw [Schema.accepts, Schema.accepts, alike.names, acceptsMembers_congr r alike.member]

theorem acceptsAny_congr (r : Reading ν κ) (alike : Alike r value value') :
    ∀ alternatives : List (Schema κ), acceptsAny r alternatives value = acceptsAny r alternatives value'
  | [] => rfl
  | schema :: rest => by
      rw [acceptsAny, acceptsAny, accepts_congr r alike schema, acceptsAny_congr r alike rest]
end

end JsonSchema
