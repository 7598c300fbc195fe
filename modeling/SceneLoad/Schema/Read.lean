import SceneLoad.Schema.Shape

/-!
# Reading a JSON value into a shape

`Shape.readWith` reads a value; the first argument reads the nested values of a recursive type.
Entries of an object are offered to the fields in stored order, so the first fault in that order is
the one reported; keys that no field answers to are passed over. A list in place of an object gives
the fields by position.
-/

namespace SceneLoad

/-- Reads the items of a list in order; the first is at position `index`. -/
def readItems {α : Type} (read : Json → Except Fault α) (index : Nat) :
    List Json → Except Fault (List α)
  | [] => .ok []
  | item :: rest =>
    match Fault.place (.index index) (read item) with
    | .error fault => .error fault
    | .ok value =>
      match readItems read (index + 1) rest with
      | .error fault => .error fault
      | .ok values => .ok (value :: values)

/-- Offers the entries of an object in order, threading what has been read. -/
def offerAll {σ : Type} (offer : String → Json → σ → Except Fault σ) :
    List (String × Json) → σ → Except Fault σ
  | [], slots => .ok slots
  | (key, value) :: rest, slots =>
    match offer key value slots with
    | .error fault => .error fault
    | .ok slots => offerAll offer rest slots

namespace Shape

/-- A number rounded to single precision. -/
def readFloat32 : Json → Except Fault Binary32
  | .num (.int value) => .ok (.ofInt value)
  | .num (.float value) => .ok value.narrow
  | other => .error (.here (.wrongType other.found .float32))

/-- An integer in a range. -/
def readInteger (name : String) (low high : Int) : Json → Except Fault Int
  | .num (.int value) =>
    if low ≤ value ∧ value ≤ high then .ok value
    else .error (.here (.outOfRange value (.integer name)))
  | other => .error (.here (.wrongType other.found (.integer name)))

/-- The value that a name stands for. -/
def readName {α : Type} (names : List (String × α)) (name : String) : Except Fault α :=
  match names.lookup name with
  | some value => .ok value
  | none => .error (.here (.unknownVariant name (names.map Prod.fst)))

/-- A name, or an object whose only key is the name and whose only value is `null`. -/
def readVariant {α : Type} (names : List (String × α)) : Json → Except Fault α
  | .str name => readName names name
  | .obj [(name, value)] =>
    match readName names name, value with
    | .error fault, _ => .error fault
    | .ok chosen, .null => .ok chosen
    | .ok _, other => .error ⟨[.key name], .wrongType other.found .unit⟩
  | .obj _ => .error (.here .notSingleKey)
  | other => .error (.here (.wrongType other.found .variant))

end Shape

mutual

/-- Reads a value. -/
def Shape.readWith {τ α : Type} (self : Json → Except Fault τ) :
    Shape τ α → Json → Except Fault α
  | .self, value => self value
  | .float32, value => Shape.readFloat32 value
  | .integer name low high, value => Shape.readInteger name low high value
  | .bool, .bool value => .ok value
  | .bool, other => .error (.here (.wrongType other.found .boolean))
  | .text, .str value => .ok value
  | .text, other => .error (.here (.wrongType other.found .text))
  | .any, value => .ok value
  | .object, .obj entries => .ok entries
  | .object, other => .error (.here (.wrongType other.found .map))
  | .list item, .arr items => readItems (item.readWith self) 0 items
  | .list _, other => .error (.here (.wrongType other.found .sequence))
  | .array length item, .arr items =>
    match readItems (item.readWith self) 0 (items.take length) with
    | .error fault => .error fault
    | .ok values =>
      if items.length < length then .error (.here (.wrongLength items.length (.array length)))
      else if length < items.length then .error (.here (.wrongLength items.length .fewerElements))
      else .ok values
  | .array length _, other => .error (.here (.wrongType other.found (.array length)))
  | .option _, .null => .ok none
  | .option item, value => (item.readWith self value).map some
  | .variant names, value => Shape.readVariant names value
  | .record _ _ fields, .obj entries =>
    match offerAll (fields.offer self) entries fields.vacant with
    | .error fault => .error fault
    | .ok slots => (fields.finish slots).mapError Fault.here
  | .record name false fields, .arr items =>
    match fields.readPositional self name fields.size 0 items with
    | .error fault => .error fault
    | .ok values =>
      if fields.size < items.length then .error (.here (.wrongLength items.length .fewerElements))
      else .ok values
  | .record name _ _, other => .error (.here (.wrongType other.found (.record name)))
  | .either name first second, value =>
    match first.readWith self value, second.readWith self value with
    | .ok value, _ => .ok value
    | _, .ok value => .ok value
    | .error _, .error _ => .error (.here (.noAlternative name))
  | .map convert shape, value => (shape.readWith self value).map convert
  | .refine check shape, value =>
    match shape.readWith self value with
    | .error fault => .error fault
    | .ok value => (check value).mapError Fault.here

/-- Offers one entry to the fields: the first that answers to the key reads the value, unless it
has been read before. -/
def Fields.offer {τ α : Type} (self : Json → Except Fault τ) :
    (fields : Fields τ α) → String → Json → fields.Slots → Except Fault fields.Slots
  | .nil, _, _, slots => .ok slots
  | .cons name aliases _ shape rest, key, value, slots =>
    if key = name ∨ key ∈ aliases then
      match slots.1 with
      | some _ => .error (.here (.repeatedField name))
      | none =>
        match Fault.place (.key key) (shape.readWith self value) with
        | .error fault => .error fault
        | .ok value => .ok (some value, slots.2)
    else
      match rest.offer self key value slots.2 with
      | .error fault => .error fault
      | .ok others => .ok (slots.1, others)

/-- Reads the fields from a list by position; `index` is the first one's. A field past the end
takes its fallback. -/
def Fields.readPositional {τ α : Type} (self : Json → Except Fault τ) :
    (fields : Fields τ α) → (record : String) → (count index : Nat) → List Json → Except Fault α
  | .nil, _, _, _, _ => .ok ()
  | .cons _ _ fallback _ rest, record, count, index, [] =>
    match fallback with
    | none => .error (.here (.wrongLength index (.elements record count)))
    | some value =>
      match rest.readPositional self record count (index + 1) [] with
      | .error fault => .error fault
      | .ok values => .ok (value, values)
  | .cons _ _ _ shape rest, record, count, index, item :: items =>
    match Fault.place (.index index) (shape.readWith self item) with
    | .error fault => .error fault
    | .ok value =>
      match rest.readPositional self record count (index + 1) items with
      | .error fault => .error fault
      | .ok values => .ok (value, values)

end

/-- Reads a value of a shape that refers to no recursive type. -/
def Shape.read {α : Type} (shape : Shape Empty α) (value : Json) : Except Fault α :=
  shape.readWith (fun other => .error (.here (.wrongType other.found .nothing))) value

end SceneLoad
