import SceneLoad.Number.Binary

/-!
# JSON values

Scene documents, prefab templates and component payloads are JSON. An object keeps its keys in
the order in which they were first written, because that order decides the order of decoding and
of what is reported; comparison with `==` disregards it. Integers and floating-point numbers are
different values even where they are numerically equal.
-/

namespace SceneLoad

/-- A JSON number: a 64-bit integer of either sign, or a finite double-precision number. -/
inductive Number where
  | int (value : Int)
  | float (value : Binary64)
deriving DecidableEq, BEq

/-- A JSON value. -/
inductive Json where
  | null
  | bool (value : Bool)
  | num (value : Number)
  | str (value : String)
  | arr (items : List Json)
  | obj (entries : List (String × Json))
deriving Inhabited

/-- The entries of a JSON object in stored order. Keys occur once. -/
abbrev Object := List (String × Json)

namespace Object

/-- The value stored under a key. -/
def find? (object : Object) (key : String) : Option Json := List.lookup key object

def contains (object : Object) (key : String) : Bool := (object.find? key).isSome

def keys (object : Object) : List String := object.map Prod.fst

/-- Stores a value. A key that is present keeps its position; a new one comes last. -/
def insert (key : String) (value : Json) : Object → Object
  | [] => [(key, value)]
  | (k, v) :: rest => if k = key then (k, value) :: rest else (k, v) :: insert key value rest

/-- Stores every entry of `updates` in turn. -/
def insertAll (object updates : Object) : Object :=
  updates.foldl (fun stored entry => insert entry.1 entry.2 stored) object

end Object

namespace Json

mutual

/-- Equality up to the order of object keys. -/
def equiv : Json → Json → Bool
  | .null, .null => true
  | .bool a, .bool b => a == b
  | .num a, .num b => a == b
  | .str a, .str b => a == b
  | .arr a, .arr b => equivItems a b
  | .obj a, .obj b => a.length == b.length && equivEntries a b
  | _, _ => false

/-- Equality of lists, item by item. -/
def equivItems : List Json → List Json → Bool
  | [], [] => true
  | x :: xs, y :: ys => x.equiv y && equivItems xs ys
  | _, _ => false

/-- Whether every entry of the first object has its equal in the second. -/
def equivEntries : Object → Object → Bool
  | [], _ => true
  | (key, value) :: rest, other =>
    (match List.lookup key other with
      | some found => value.equiv found
      | none => false) && equivEntries rest other

end

instance : BEq Json := ⟨equiv⟩

mutual

/-- Levels of arrays and objects; a scalar has depth 0. -/
def depth : Json → Nat
  | .arr items => depthItems items + 1
  | .obj entries => depthEntries entries + 1
  | _ => 0

/-- Depth of the deepest item. -/
def depthItems : List Json → Nat
  | [] => 0
  | item :: rest => max item.depth (depthItems rest)

/-- Depth of the deepest entry. -/
def depthEntries : List (String × Json) → Nat
  | [] => 0
  | (_, value) :: rest => max value.depth (depthEntries rest)

end

/-- The value under a key, if this is an object that has it. -/
def field? : Json → String → Option Json
  | .obj entries, key => Object.find? entries key
  | _, _ => none

/-- The text, if this is one. -/
def text? : Json → Option String
  | .str value => some value
  | _ => none

end Json

/-- Equality of objects up to the order of their keys. -/
def Object.equiv (a b : Object) : Bool := Json.equiv (.obj a) (.obj b)

end SceneLoad
