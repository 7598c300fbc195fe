import SceneLoad.Json.Lexeme
import SceneLoad.Schema.Read

/-!
# Reading JSON text into a shape

`scanValue` reads any value, `Shape.scanWith` a value of a shape. Records, lists and texts are read
as they go by, so a fault is found at the first place where the text stops being what the shape asks
for, whatever comes after; a choice between shapes is made on the whole value. `room` is the number
of arrays and objects that may still be opened.
-/

namespace SceneLoad

/-- What was read, with the text after it. -/
abbrev Scan (α : Type) := Except Fault (α × List Char)

namespace Scan

/-- A lexical fault is a fault of the value being read. -/
def lift {α : Type} : Except Malformed α → Except Fault α
  | .ok value => .ok value
  | .error reason => .error (.here (.malformed reason))

/-- Reads items up to and including the closing bracket. Every item takes a character, so the length
of the text is enough fuel. -/
def items {α : Type} (item : List Char → Scan α) :
    (fuel : Nat) → (index : Nat) → List Char → Scan (List α)
  | 0, _, _ => .error (.here (.malformed .endInList))
  | fuel + 1, index, text =>
    match lift (Lexeme.nextItem (index == 0) text) with
    | .error fault => .error fault
    | .ok (false, text) => .ok ([], text.drop 1)
    | .ok (true, text) =>
      match Fault.place (.index index) (item text) with
      | .error fault => .error fault
      | .ok (value, text) =>
        match items item fuel (index + 1) text with
        | .error fault => .error fault
        | .ok (values, text) => .ok (value :: values, text)

/-- Reads entries up to and including the closing brace, threading what has been read. `entry` goes
on after the key. -/
def entries {σ : Type} (entry : String → σ → List Char → Scan σ) :
    (fuel : Nat) → (first : Bool) → σ → List Char → Scan σ
  | 0, _, _, _ => .error (.here (.malformed .endInObject))
  | fuel + 1, first, read, text =>
    match Fault.place .unknown (lift (Lexeme.nextKey first text)) with
    | .error fault => .error fault
    | .ok (none, text) => .ok (read, text)
    | .ok (some key, text) =>
      match entry key read text with
      | .error fault => .error fault
      | .ok (read, text) => entries entry fuel false read text

/-- Reads the colon and the value under a key. -/
def member {α : Type} (key : String) (value : List Char → Scan α) (text : List Char) : Scan α :=
  match lift (Lexeme.colon text) with
  | .error fault => .error fault
  | .ok text => Fault.place (.key key) (value text)

end Scan

/-- A scalar, with the text after it, or what opens at the front of the text. -/
def scanScalar (text : List Char) : Except Malformed (Found × List Char) :=
  match Lexeme.skipBlank text with
  | [] => .error .endInValue
  | 'n' :: rest => (Lexeme.word "ull".toList rest).map fun rest => (.null, rest)
  | 't' :: rest => (Lexeme.word "rue".toList rest).map fun rest => (.bool true, rest)
  | 'f' :: rest => (Lexeme.word "alse".toList rest).map fun rest => (.bool false, rest)
  | '-' :: rest => (Lexeme.number true rest).map fun (value, rest) => (.num value, rest)
  | '"' :: rest => (Lexeme.string rest).map fun (value, rest) => (.str value, rest)
  | '[' :: rest => .ok (.sequence, rest)
  | '\x7b' :: rest => .ok (.map, rest)
  | c :: rest =>
    if c.isDigit then
      (Lexeme.number false (c :: rest)).map fun (value, rest) => (.num value, rest)
    else .error .noValue

/-- Reads any value. A key that is written again keeps its place and takes the later value. -/
def scanValue (room : Nat) (text : List Char) : Scan Json :=
  match Scan.lift (scanScalar text) with
  | .error fault => .error fault
  | .ok (.null, rest) => .ok (.null, rest)
  | .ok (.bool value, rest) => .ok (.bool value, rest)
  | .ok (.num value, rest) => .ok (.num value, rest)
  | .ok (.str value, rest) => .ok (.str value, rest)
  | .ok (.sequence, rest) =>
    match room with
    | 0 => .error (.here (.malformed .tooDeep))
    | room + 1 =>
      (Scan.items (scanValue room) (rest.length + 1) 0 rest).map fun (values, rest) =>
        (.arr values, rest)
  | .ok (.map, rest) =>
    match room with
    | 0 => .error (.here (.malformed .tooDeep))
    | room + 1 =>
      let entry (key : String) (read : Object) (text : List Char) : Scan Object :=
        (Scan.member key (scanValue room) text).map fun (value, text) =>
          (Object.insert key value read, text)
      (Scan.entries entry (rest.length + 1) true [] rest).map fun (object, rest) =>
        (.obj object, rest)

/-- Reads the entries of an object as they are, after its opening brace. -/
def scanObject (room : Nat) (text : List Char) : Scan Object :=
  let entry (key : String) (read : Object) (text : List Char) : Scan Object :=
    (Scan.member key (scanValue room) text).map fun (value, text) =>
      (Object.insert key value read, text)
  Scan.entries entry (text.length + 1) true [] text

namespace Scan

/-- Reads a whole value and then makes it out. -/
def whole {α : Type} (room : Nat) (read : Json → Except Fault α) (text : List Char) : Scan α :=
  match scanValue room text with
  | .error fault => .error fault
  | .ok (value, rest) => (read value).map fun value => (value, rest)

/-- Reads a scalar; of an array or object it looks at the bracket alone. -/
def scalar {α : Type} (read : Json → Except Fault α) (text : List Char) : Scan α :=
  match lift (scanScalar text) with
  | .error fault => .error fault
  | .ok (found, rest) =>
    let value : Json := match found with
      | .null => .null
      | .bool value => .bool value
      | .num value => .num value
      | .str value => .str value
      | .sequence => .arr []
      | .map => .obj []
    (read value).map fun value => (value, rest)

/-- Reads an array or object after its opening bracket, if there is room for it. -/
def opened {α : Type} (room : Nat) (read : (room : Nat) → Scan α) : Scan α :=
  match room with
  | 0 => .error (.here (.malformed .tooDeep))
  | room + 1 => read room

end Scan

mutual

/-- Reads a value of a shape from text. -/
def Shape.scanWith {τ α : Type} (self : Json → Except Fault τ) :
    Shape τ α → (room : Nat) → List Char → Scan α
  | .any, room, text => scanValue room text
  | .text, _, text => Scan.scalar (Shape.text.readWith self) text
  | .bool, _, text => Scan.scalar (Shape.bool.readWith self) text
  | .float32, _, text => Scan.scalar Shape.readFloat32 text
  | .integer name low high, _, text => Scan.scalar (Shape.readInteger name low high) text
  | .object, room, text =>
    match Scan.lift (scanScalar text) with
    | .error fault => .error fault
    | .ok (.map, rest) => Scan.opened room fun room => scanObject room rest
    | .ok (found, _) => .error (.here (.wrongType found .map))
  | .list item, room, text =>
    match Scan.lift (scanScalar text) with
    | .error fault => .error fault
    | .ok (.sequence, rest) =>
      Scan.opened room fun room => Scan.items (item.scanWith self room) (rest.length + 1) 0 rest
    | .ok (found, _) => .error (.here (.wrongType found .sequence))
  | .option item, room, text =>
    match Lexeme.skipBlank text with
    | 'n' :: rest => (Scan.lift (Lexeme.word "ull".toList rest)).map fun rest => (none, rest)
    | text => (item.scanWith self room text).map fun (value, rest) => (some value, rest)
  | .record name named fields, room, text =>
    match Scan.lift (scanScalar text) with
    | .error fault => .error fault
    | .ok (.map, rest) =>
      Scan.opened room fun room =>
        match
          Scan.entries (fields.scanOffer self room) (rest.length + 1) true fields.vacant rest with
        | .error fault => .error fault
        | .ok (slots, rest) =>
          match fields.finish slots with
          | .error cause => .error (.here cause)
          | .ok value => .ok (value, rest)
    | .ok (.sequence, rest) =>
      if named then .error (.here (.wrongType .sequence (.record name)))
      else
        Scan.opened room fun room =>
          match fields.scanPositional self room name fields.size 0 rest with
          | .error fault => .error fault
          | .ok (value, rest) => (Scan.lift (Lexeme.endItems rest)).map fun rest => (value, rest)
    | .ok (found, _) => .error (.here (.wrongType found (.record name)))
  | .map convert shape, room, text =>
    (shape.scanWith self room text).map fun (value, rest) => (convert value, rest)
  | .refine check shape, room, text =>
    match shape.scanWith self room text with
    | .error fault => .error fault
    | .ok (value, rest) =>
      match check value with
      | .error cause => .error (.here cause)
      | .ok value => .ok (value, rest)
  | .self, room, text => Scan.whole room self text
  | .array length item, room, text =>
    Scan.whole room ((Shape.array length item).readWith self) text
  | .variant names, room, text => Scan.whole room (Shape.readVariant names) text
  | .either name first second, room, text =>
    Scan.whole room ((Shape.either name first second).readWith self) text

/-- Reads what follows a key: the value of the field that answers to it, or a value to skip. -/
def Fields.scanOffer {τ α : Type} (self : Json → Except Fault τ) :
    (fields : Fields τ α) → (room : Nat) → String → fields.Slots → List Char → Scan fields.Slots
  | .nil, _, key, slots, text =>
    Scan.member key
      (fun text => (Scan.lift (Lexeme.skipValue text)).map fun rest => (slots, rest)) text
  | .cons name aliases _ shape rest, room, key, slots, text =>
    if key = name ∨ key ∈ aliases then
      match slots.1 with
      | some _ => .error (.here (.repeatedField name))
      | none =>
        match Scan.member key (shape.scanWith self room) text with
        | .error fault => .error fault
        | .ok (value, text) => .ok ((some value, slots.2), text)
    else
      match rest.scanOffer self room key slots.2 text with
      | .error fault => .error fault
      | .ok (others, text) => .ok ((slots.1, others), text)

/-- Reads the fields by position, up to but not including the closing bracket. -/
def Fields.scanPositional {τ α : Type} (self : Json → Except Fault τ) :
    (fields : Fields τ α) → (room : Nat) → (record : String) → (count index : Nat) →
      List Char → Scan α
  | .nil, _, _, _, _, text => .ok ((), text)
  | .cons _ _ fallback shape rest, room, record, count, index, text =>
    match Scan.lift (Lexeme.nextItem (index == 0) text) with
    | .error fault => .error fault
    | .ok (true, text) =>
      match Fault.place (.index index) (shape.scanWith self room text) with
      | .error fault => .error fault
      | .ok (value, text) =>
        match rest.scanPositional self room record count (index + 1) text with
        | .error fault => .error fault
        | .ok (values, text) => .ok ((value, values), text)
    | .ok (false, text) =>
      match fallback with
      | none => .error (.here (.wrongLength index (.elements record count)))
      | some value =>
        match rest.scanPositional self room record count (index + 1) text with
        | .error fault => .error fault
        | .ok (values, text) => .ok ((value, values), text)

end

/-- Arrays and objects that a document may have open at once. -/
def maxOpen : Nat := 127

/-- Reads a value of a shape from the front of a text. What follows the value is not looked at. -/
def Shape.scan {α : Type} (shape : Shape Empty α) (text : String) : Except Fault α :=
  let nested (other : Json) : Except Fault Empty := .error (.here (.wrongType other.found .nothing))
  (shape.scanWith nested maxOpen text.toList).map Prod.fst

end SceneLoad
