/-!
# Paths into a JSON value

A path is the chain of object keys and array positions from the value that is read to the part
that a message is about.
-/

namespace SceneLoad

/-- One step into a JSON value. -/
inductive Segment where
  | key (name : String)
  | index (position : Nat)
  /-- A key that has not been read yet. -/
  | unknown
deriving DecidableEq

abbrev Path := List Segment

namespace Path

/-- The path after its first step: keys are joined by dots, positions stand in brackets. -/
def renderAfter : Path → String
  | [] => ""
  | .key name :: rest => "." ++ name ++ renderAfter rest
  | .unknown :: rest => ".?" ++ renderAfter rest
  | .index position :: rest => "[" ++ toString position ++ "]" ++ renderAfter rest

/-- The path as text; the whole value is a single dot. -/
def render : Path → String
  | [] => "."
  | .key name :: rest => name ++ renderAfter rest
  | .unknown :: rest => "?" ++ renderAfter rest
  | .index position :: rest => "[" ++ toString position ++ "]" ++ renderAfter rest

end Path

end SceneLoad
