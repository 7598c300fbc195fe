import SceneLoad.Schema.Shape
import SceneLoad.Space.Vector

/-!
# Shapes of vectors

Vectors are authored as lists of numbers or as objects that name the components; fixed-size fields
of some components take the list only.
-/

namespace SceneLoad

variable {τ : Type}

/-- The components of a vector that is written as an object. -/
def Fields.vector : Fields τ (Binary32 × Binary32 × Binary32 × Option Binary32 × Unit) :=
  .required "x" .float32 <| .required "y" .float32 <| .required "z" .float32 <|
    .optional "w" .float32 .nil

namespace Shape

/-- A list of numbers, or an object with `x`, `y`, `z` and possibly `w`. -/
def vector : Shape τ (List Binary32) :=
  .either "VectorInput" (.list .float32) <|
    .map (fun (x, y, z, w, _) => x :: y :: z :: w.toList) <|
      .record "VectorInput" true Fields.vector

/-- A vector that must have three components. -/
def vector3 : Shape τ Vec3 :=
  .refine (fun
    | [x, y, z] => .ok ⟨x, y, z⟩
    | other => .error (.wrongLength other.length (.components 3))) vector

/-- A pair of numbers, or an object with `u` and `v`. -/
def vector2 : Shape τ Vec2 :=
  .refine (fun
    | [u, v] => .ok ⟨u, v⟩
    | other => .error (.wrongLength other.length (.components 2))) <|
    .either "Vec2Input" (.array 2 .float32) <|
      .map (fun (u, v, _) => [u, v]) <|
        .record "Vec2Input" true <| .required "u" .float32 <| .required "v" .float32 .nil

/-- A list of exactly three numbers. -/
def triple : Shape τ Vec3 :=
  .refine (fun
    | [x, y, z] => .ok ⟨x, y, z⟩
    | other => .error (.wrongLength other.length (.array 3))) (.array 3 .float32)

/-- A list of exactly two values. -/
def pair {α : Type} (item : Shape τ α) : Shape τ (α × α) :=
  .refine (fun
    | [a, b] => .ok (a, b)
    | other => .error (.wrongLength other.length (.array 2))) (.array 2 item)

end Shape

end SceneLoad
