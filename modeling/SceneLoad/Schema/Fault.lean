import SceneLoad.Json.Malformed
import SceneLoad.Json.Printer
import SceneLoad.Schema.Path
import SceneLoad.Text.Quoted

/-!
# Faults of a JSON value

Reading a value into a shape fails at one place for one cause. A `Fault` is that pair; the
wording of every cause is `Cause.message`.
-/

namespace SceneLoad

/-- What was found where something else was expected. -/
inductive Found where
  | null
  | bool (value : Bool)
  | num (value : Number)
  | str (value : String)
  | sequence
  | map
deriving DecidableEq

/-- What a message says of a value. -/
def Json.found : Json → Found
  | .null => .null
  | .bool value => .bool value
  | .num value => .num value
  | .str value => .str value
  | .arr _ => .sequence
  | .obj _ => .map

def Found.describe : Found → String
  | .null => "null"
  | .bool value => if value then "boolean `true`" else "boolean `false`"
  | .num (.int value) => "integer `" ++ toString value ++ "`"
  | .num (.float value) => "floating point `" ++ value.text ++ "`"
  | .str value => "string " ++ Text.quoted value
  | .sequence => "sequence"
  | .map => "map"

/-- What a shape asks for. -/
inductive Expected where
  | float32
  /-- An integer type, by its name. -/
  | integer (name : String)
  | boolean
  | text
  | sequence
  | map
  | array (length : Nat)
  | record (name : String)
  /-- A record written as a list of its `count` fields. -/
  | elements (name : String) (count : Nat)
  | variant
  | unit
  | singleKey
  | fewerElements
  | components (count : Nat)
  /-- Nothing can stand here. -/
  | nothing
deriving DecidableEq

def Expected.describe : Expected → String
  | .float32 => "f32"
  | .integer name => name
  | .boolean => "a boolean"
  | .text => "a string"
  | .sequence => "a sequence"
  | .map => "a map"
  | .array length => "an array of length " ++ toString length
  | .record name => "struct " ++ name
  | .elements name count =>
    "struct " ++ name ++ " with " ++ toString count ++
      (if count = 1 then " element" else " elements")
  | .variant => "string or map"
  | .unit => "unit"
  | .singleKey => "map with a single key"
  | .fewerElements => "fewer elements in array"
  | .components count => toString count ++ " components"
  | .nothing => "nothing"

/-- Why a value does not have its shape. -/
inductive Cause where
  | wrongType (found : Found) (expected : Expected)
  /-- An integer outside the range of its type. -/
  | outOfRange (value : Int) (expected : Expected)
  | wrongLength (length : Nat) (expected : Expected)
  /-- A variant written as an object that has no single key. -/
  | notSingleKey
  | unknownVariant (name : String) (known : List String)
  | repeatedField (name : String)
  | missingField (name : String)
  /-- None of the alternatives of the named choice fits. -/
  | noAlternative (name : String)
  | malformed (reason : Malformed)
deriving DecidableEq

/-- Names between backquotes as a list of alternatives. -/
def listAlternatives (names : List String) : String :=
  let shown := names.map fun name => "`" ++ name ++ "`"
  match shown with
  | [] => "there are no variants"
  | [only] => "expected " ++ only
  | [first, second] => "expected " ++ first ++ " or " ++ second
  | _ => "expected one of " ++ String.intercalate ", " shown

/-- The wording of a cause. -/
def Cause.message : Cause → String
  | .wrongType found expected =>
    "invalid type: " ++ found.describe ++ ", expected " ++ expected.describe
  | .outOfRange value expected =>
    "invalid value: integer `" ++ toString value ++ "`, expected " ++ expected.describe
  | .wrongLength length expected =>
    "invalid length " ++ toString length ++ ", expected " ++ expected.describe
  | .notSingleKey => "invalid value: map, expected " ++ Expected.singleKey.describe
  | .unknownVariant name known =>
    "unknown variant `" ++ name ++ "`, " ++ listAlternatives known
  | .repeatedField name => "duplicate field `" ++ name ++ "`"
  | .missingField name => "missing field `" ++ name ++ "`"
  | .noAlternative name => "data did not match any variant of untagged enum " ++ name
  | .malformed reason => reason.message

/-- A cause and the place it was found at. -/
structure Fault where
  path : Path
  cause : Cause
deriving DecidableEq

namespace Fault

/-- A fault of the value itself. -/
def here (cause : Cause) : Fault := ⟨[], cause⟩

/-- The fault seen from one step further out. -/
def under (segment : Segment) (fault : Fault) : Fault :=
  { fault with path := segment :: fault.path }

/-- Places the fault of a part at the part's segment. -/
def place {α : Type} (segment : Segment) : Except Fault α → Except Fault α
  | .ok value => .ok value
  | .error fault => .error (fault.under segment)

end Fault

end SceneLoad
