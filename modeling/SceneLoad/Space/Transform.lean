import SceneLoad.Space.Vector

/-!
# Local transforms

A transform is authored as lists of numbers. Positions and scales have three; a rotation has three,
which are Euler angles in degrees, or four, which are a quaternion. A field that is absent takes the
value of the identity, and one of another length is an `ArityError`.
-/

namespace SceneLoad

/-- A field of a transform with the wrong number of elements. -/
structure ArityError where
  field : String
  expected : String
  actual : Nat
deriving DecidableEq

def ArityError.message (error : ArityError) : String :=
  error.field ++ " has " ++ toString error.actual ++ " elements; expected " ++ error.expected

/-- Local position, orientation and scale. -/
structure Transform where
  position : Vec3
  rotation : Quaternion
  scale : Vec3
deriving DecidableEq, BEq

namespace Transform

def identity : Transform := ⟨.zero, .identity, .one⟩

/-- Three components, or the fallback when none are given. -/
def vectorOr (fallback : Vec3) (field : String) : Option (List Binary32) → Except ArityError Vec3
  | none => .ok fallback
  | some [x, y, z] => .ok ⟨x, y, z⟩
  | some other => .error ⟨field, "3", other.length⟩

/-- The position that a list of components denotes. -/
def readPosition : Option (List Binary32) → Except ArityError Vec3 := vectorOr .zero "position"

/-- The scale that a list of components denotes. -/
def readScale : Option (List Binary32) → Except ArityError Vec3 := vectorOr .one "scale"

/-- The orientation that a list of components denotes. -/
def readRotation : Option (List Binary32) → Except ArityError Quaternion
  | none => .ok .identity
  | some [x, y, z] => .ok (.ofEulerDegrees x y z)
  | some [x, y, z, w] => .ok ⟨x, y, z, w⟩
  | some other =>
    .error ⟨"rotation", "3 (Euler degrees) or 4 (quaternion x,y,z,w)", other.length⟩

/-- The result, or a fallback for a field of the wrong length. -/
def orElse {α : Type} (fallback : α) : Except ArityError α → α
  | .ok value => value
  | .error _ => fallback

/-- The fault of a field, if it has one. -/
def arityError? {α : Type} : Except ArityError α → Option ArityError
  | .ok _ => none
  | .error error => some error

/-- The position, or the origin for a list of the wrong length. -/
def positionOf (components : Option (List Binary32)) : Vec3 :=
  orElse .zero (readPosition components)

/-- The scale, or one for a list of the wrong length. -/
def scaleOf (components : Option (List Binary32)) : Vec3 := orElse .one (readScale components)

/-- The orientation, or the identity for a list of the wrong length. -/
def rotationOf (components : Option (List Binary32)) : Quaternion :=
  orElse .identity (readRotation components)

/-- The fields of the wrong length, in the order position, rotation, scale. -/
def arityErrors (position rotation scale : Option (List Binary32)) : List ArityError :=
  (arityError? (readPosition position)).toList ++ (arityError? (readRotation rotation)).toList ++
    (arityError? (readScale scale)).toList

end Transform

end SceneLoad
