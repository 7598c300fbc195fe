import SceneLoad.Json.Basic
import SceneLoad.Schema.Fault

/-!
# Shapes

A `Shape τ α` says how a value of type `α` is written in JSON. Components, prefab templates and
scene documents are all described by shapes, and one reader interprets them (`Shape.read` for JSON
values, `Shape.scan` for JSON text), so the rules on field names, defaults, positional records and
fault paths are stated once. `τ` is the type that a shape may refer to recursively through
`Shape.self`; a shape that does not is over `Empty`.

A record is a list of `Fields`. Each has a name, other names that mean the same field, and a value
for when it is absent, unless the field is required.
-/

namespace SceneLoad

mutual

/-- How a value of type `α` is written in JSON. -/
inductive Shape (τ : Type) : Type → Type 1 where
  /-- A nested value of the recursive type. -/
  | self : Shape τ τ
  /-- A number, rounded to single precision. -/
  | float32 : Shape τ Binary32
  /-- An integer of the named type, which runs from `low` to `high`. -/
  | integer (name : String) (low high : Int) : Shape τ Int
  | bool : Shape τ Bool
  | text : Shape τ String
  /-- Any value, kept as it is. -/
  | any : Shape τ Json
  /-- Any object, kept as it is. -/
  | object : Shape τ Object
  | list {α : Type} (item : Shape τ α) : Shape τ (List α)
  /-- A list of exactly `length` items. -/
  | array {α : Type} (length : Nat) (item : Shape τ α) : Shape τ (List α)
  /-- A value or `null`. -/
  | option {α : Type} (item : Shape τ α) : Shape τ (Option α)
  /-- One of several names. -/
  | variant {α : Type} (names : List (String × α)) : Shape τ α
  /-- A record by field names or, unless `named`, by position. -/
  | record {α : Type} (name : String) (named : Bool) (fields : Fields τ α) : Shape τ α
  /-- The first of two shapes that fits. -/
  | either {α : Type} (name : String) (first second : Shape τ α) : Shape τ α
  /-- A value of another shape, converted. -/
  | map {α β : Type} (convert : α → β) (shape : Shape τ α) : Shape τ β
  /-- A value of another shape, checked and converted. -/
  | refine {α β : Type} (check : α → Except Cause β) (shape : Shape τ α) : Shape τ β

/-- The fields of a record in the order in which a positional record lists them. -/
inductive Fields (τ : Type) : Type → Type 1 where
  | nil : Fields τ Unit
  | cons {α β : Type} (name : String) (aliases : List String) (fallback : Option α)
      (shape : Shape τ α) (rest : Fields τ β) : Fields τ (α × β)

end

namespace Fields

variable {τ α : Type}

/-- A field that has to be present. -/
def required {β : Type} (name : String) (shape : Shape τ β) (rest : Fields τ α) :
    Fields τ (β × α) :=
  .cons name [] none shape rest

/-- A field with a fallback. -/
def field {β : Type} (name : String) (fallback : β) (shape : Shape τ β) (rest : Fields τ α) :
    Fields τ (β × α) :=
  .cons name [] (some fallback) shape rest

/-- A field that may be absent or `null`. -/
def optional {β : Type} (name : String) (shape : Shape τ β) (rest : Fields τ α) :
    Fields τ (Option β × α) :=
  .cons name [] (some none) (.option shape) rest

/-- Number of fields. -/
def size {α : Type} : Fields τ α → Nat
  | .nil => 0
  | .cons _ _ _ _ rest => rest.size + 1

/-- Every name that some field answers to. -/
def names {α : Type} : Fields τ α → List String
  | .nil => []
  | .cons name aliases _ _ rest => name :: aliases ++ rest.names

/-- What has been read of each field so far. -/
def Slots {α : Type} : Fields τ α → Type
  | .nil => Unit
  | @Fields.cons _ β _ _ _ _ _ rest => Option β × rest.Slots

/-- Nothing read yet. -/
def vacant {α : Type} : (fields : Fields τ α) → fields.Slots
  | .nil => ()
  | .cons _ _ _ _ rest => (none, rest.vacant)

/-- The record from what has been read: absent fields take their fallback, and the first required
one among them is missing. -/
def finish {α : Type} : (fields : Fields τ α) → fields.Slots → Except Cause α
  | .nil, _ => .ok ()
  | .cons name _ fallback _ rest, slots =>
    match slots.1.or fallback with
    | none => .error (.missingField name)
    | some value =>
      match rest.finish slots.2 with
      | .ok values => .ok (value, values)
      | .error cause => .error cause

end Fields

/-- A record type laid out in fields, and how it is put together from their values. -/
structure Layout (τ α : Type) where
  {row : Type}
  /-- What messages call the record. -/
  name : String
  fields : Fields τ row
  build : row → α

/-- The shape of a record that may be written by name or by position. -/
def Layout.shape {τ α : Type} (layout : Layout τ α) : Shape τ α :=
  .map layout.build (.record layout.name false layout.fields)

namespace Shape

variable {τ : Type}

/-- Unsigned 8-bit integers. -/
def uint8 : Shape τ UInt8 := .map (fun n => .ofNat n.toNat) (.integer "u8" 0 255)

/-- Unsigned 32-bit integers. -/
def uint32 : Shape τ UInt32 := .map (fun n => .ofNat n.toNat) (.integer "u32" 0 4294967295)

/-- Unsigned 64-bit integers. -/
def uint64 : Shape τ UInt64 :=
  .map (fun n => .ofNat n.toNat) (.integer "u64" 0 18446744073709551615)

/-- Signed 32-bit integers. -/
def int32 : Shape τ Int32 := .map Int32.ofInt (.integer "i32" (-2147483648) 2147483647)

end Shape

end SceneLoad
