import SceneLoad.Json.Basic
import SceneLoad.Number.Shortest

/-!
# JSON text

`Json.compact` writes a value without blanks; `Json.pretty` puts every item on its own line,
indented by two spaces a level, and closes empty arrays and objects at once.
-/

namespace SceneLoad

namespace Text

/-- Four hexadecimal digits. -/
def hex4 (n : Nat) : String :=
  let digits := Nat.toDigits 16 n
  String.ofList (List.replicate (4 - digits.length) '0' ++ digits)

/-- A character inside a JSON string: controls, the quote and the backslash are escaped. -/
def jsonEscape (c : Char) : String :=
  match c with
  | '"' => "\\\""
  | '\\' => "\\\\"
  | '\n' => "\\n"
  | '\r' => "\\r"
  | '\t' => "\\t"
  | c =>
    if c.toNat == 8 then "\\b"
    else if c.toNat == 12 then "\\f"
    else if c.toNat < 0x20 then "\\u" ++ hex4 c.toNat
    else String.singleton c

/-- A JSON string literal. -/
def jsonString (text : String) : String :=
  "\"" ++ String.join (text.toList.map jsonEscape) ++ "\""

end Text

/-- A number as JSON text. -/
def Number.text : Number → String
  | .int value => toString value
  | .float value => value.text

namespace Json

mutual

/-- JSON text without blanks. -/
def compact : Json → String
  | .null => "null"
  | .bool value => if value then "true" else "false"
  | .num value => value.text
  | .str value => Text.jsonString value
  | .arr items => "[" ++ String.intercalate "," (compactItems items) ++ "]"
  | .obj entries => "\x7b" ++ String.intercalate "," (compactEntries entries) ++ "\x7d"

def compactItems : List Json → List String
  | [] => []
  | item :: rest => item.compact :: compactItems rest

def compactEntries : List (String × Json) → List String
  | [] => []
  | (key, value) :: rest => (Text.jsonString key ++ ":" ++ value.compact) :: compactEntries rest

end

/-- The start of a line at a level of indentation. -/
def newline (level : Nat) : String :=
  "\n" ++ String.ofList (List.replicate (2 * level) ' ')

/-- Items between brackets, each on a line of its own. -/
def block (opening closing : String) (level : Nat) (items : List String) : String :=
  if items.isEmpty then opening ++ closing
  else
    opening ++ newline (level + 1) ++ String.intercalate ("," ++ newline (level + 1)) items ++
      newline level ++ closing

mutual

/-- JSON text with one item a line, for a value that stands at `level`. -/
def prettyAt (level : Nat) : Json → String
  | .null => "null"
  | .bool value => if value then "true" else "false"
  | .num value => value.text
  | .str value => Text.jsonString value
  | .arr items => block "[" "]" level (prettyItems (level + 1) items)
  | .obj entries => block "\x7b" "\x7d" level (prettyEntries (level + 1) entries)

def prettyItems (level : Nat) : List Json → List String
  | [] => []
  | item :: rest => prettyAt level item :: prettyItems level rest

def prettyEntries (level : Nat) : List (String × Json) → List String
  | [] => []
  | (key, value) :: rest =>
    (Text.jsonString key ++ ": " ++ prettyAt level value) :: prettyEntries level rest

end

/-- JSON text with one item a line. -/
def pretty (value : Json) : String := value.prettyAt 0

end Json

end SceneLoad
