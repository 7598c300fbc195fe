import SceneLoad.Number.Binary

/-!
# Vectors and quaternions

Single-precision vectors of two and three components, and quaternions. `==` compares them
component by component as numbers.
-/

namespace SceneLoad

/-- A pair of coordinates. -/
structure Vec2 where
  x : Binary32
  y : Binary32
deriving DecidableEq, BEq

/-- A position, direction or scale. -/
structure Vec3 where
  x : Binary32
  y : Binary32
  z : Binary32
deriving DecidableEq, BEq

namespace Vec3

def zero : Vec3 := ⟨0, 0, 0⟩

def one : Vec3 := ⟨1, 1, 1⟩

end Vec3

/-- An orientation. -/
structure Quaternion where
  x : Binary32
  y : Binary32
  z : Binary32
  w : Binary32
deriving DecidableEq, BEq

namespace Quaternion

def identity : Quaternion := ⟨0, 0, 0, 1⟩

/-- One degree in radians, in single precision. -/
def radiansPerDegree : Binary32 := ⟨0x3c8efa35⟩

/-- Half of an angle given in degrees, in radians. -/
def halfAngle (degrees : Binary32) : Float32 :=
  degrees.toFloat * radiansPerDegree.toFloat * 0.5

/-- The rotation by Euler angles in degrees, about `x`, then `y`, then `z`. -/
def ofEulerDegrees (x y z : Binary32) : Quaternion :=
  let ti := halfAngle z
  let tj := halfAngle (-y)
  let th := halfAngle x
  let ci := ti.cos
  let si := ti.sin
  let cj := tj.cos
  let sj := tj.sin
  let ch := th.cos
  let sh := th.sin
  let cc := ci * ch
  let cs := ci * sh
  let sc := si * ch
  let ss := si * sh
  { x := .ofFloat (cj * cs - sj * sc)
    y := .ofFloat (-(cj * ss + sj * cc))
    z := .ofFloat (cj * sc - sj * cs)
    w := .ofFloat (cj * cc + sj * ss) }

end Quaternion

end SceneLoad
