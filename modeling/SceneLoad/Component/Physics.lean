import SceneLoad.Component.Vectors

/-!
# Physics components

Rigid bodies, colliders and character controllers.
-/

namespace SceneLoad

/-- What a surface is like. -/
structure PhysicsMaterial where
  friction : Binary32 := 0.7
  restitution : Binary32 := 0.3
  density : Binary32 := 1
deriving DecidableEq, BEq

def PhysicsMaterial.layout : Layout Empty PhysicsMaterial where
  name := "PhysicsMaterial"
  fields :=
    .field "friction" 0.7 .float32 <|
    .field "restitution" 0.3 .float32 <|
    .field "density" 1 .float32 .nil
  build := fun (friction, restitution, density, _) => { friction, restitution, density }

/-- How a rigid body moves. -/
inductive BodyType where
  | dynamic
  | kinematic
  | fixed
deriving DecidableEq, BEq

namespace BodyType

/-- The authored names of the types. -/
def names : List (String × BodyType) :=
  [("dynamic", .dynamic), ("kinematic", .kinematic), ("static", .fixed)]

end BodyType

/-- A simulated body. -/
structure RigidBody where
  enabled : Bool
  bodyType : BodyType
  mass : Binary32
  gravityScale : Binary32
  canSleep : Bool
  material : PhysicsMaterial
deriving DecidableEq, BEq

/-- The body type may also be spelled `type`; `bodyType` wins. -/
def RigidBody.layout : Layout Empty RigidBody where
  name := "AuthoredRigidBody"
  fields :=
    .field "enabled" true .bool <|
    .optional "bodyType" (.variant BodyType.names) <|
    .optional "type" (.variant BodyType.names) <|
    .field "mass" 1 .float32 <|
    .field "gravityScale" 1 .float32 <|
    .field "canSleep" true .bool <|
    .optional "material" PhysicsMaterial.layout.shape .nil
  build := fun
    | (enabled, bodyType, legacyType, mass, gravityScale, canSleep, material, _) =>
      { enabled, bodyType := (bodyType.or legacyType).getD .dynamic, mass, gravityScale, canSleep,
        material := material.getD {} }

/-- The form of a collider. -/
inductive ColliderType where
  | box
  | sphere
  | capsule
  | convex
  | mesh
  | heightfield
deriving DecidableEq, BEq

namespace ColliderType

/-- The authored names of the types. -/
def names : List (String × ColliderType) :=
  [("box", .box), ("sphere", .sphere), ("capsule", .capsule), ("convex", .convex), ("mesh", .mesh),
    ("heightfield", .heightfield)]

end ColliderType

/-- The extent of a collider, whatever its form. -/
structure ColliderSize where
  width : Binary32 := 1
  height : Binary32 := 1
  depth : Binary32 := 1
  radius : Binary32 := 0.5
  capsuleRadius : Binary32 := 0.5
  capsuleHeight : Binary32 := 2
deriving DecidableEq, BEq

def ColliderSize.layout : Layout Empty ColliderSize where
  name := "ColliderSize"
  fields :=
    .field "width" 1 .float32 <|
    .field "height" 1 .float32 <|
    .field "depth" 1 .float32 <|
    .field "radius" 0.5 .float32 <|
    .field "capsuleRadius" 0.5 .float32 <|
    .field "capsuleHeight" 2 .float32 .nil
  build := fun
    | (width, height, depth, radius, capsuleRadius, capsuleHeight, _) =>
      { width, height, depth, radius, capsuleRadius, capsuleHeight }

/-- What a body collides with. -/
structure MeshCollider where
  enabled : Bool
  colliderType : ColliderType
  isTrigger : Bool
  size : ColliderSize
  center : Vec3
  physicsMaterial : PhysicsMaterial
deriving DecidableEq, BEq

def MeshCollider.layout : Layout Empty MeshCollider where
  name := "AuthoredCollider"
  fields :=
    .field "enabled" true .bool <|
    .cons "colliderType" ["type"] (some .box) (.variant ColliderType.names) <|
    .field "isTrigger" false .bool <|
    .field "size" {} ColliderSize.layout.shape <|
    .field "center" .zero .triple <|
    .optional "physicsMaterial" PhysicsMaterial.layout.shape .nil
  build := fun
    | (enabled, colliderType, isTrigger, size, center, physicsMaterial, _) =>
      { enabled, colliderType, isTrigger, size, center,
        physicsMaterial := physicsMaterial.getD {} }

/-- Keys that move a character. -/
structure InputMapping where
  forward : String := "w"
  backward : String := "s"
  left : String := "a"
  right : String := "d"
  jump : String := "space"
deriving DecidableEq, BEq

def InputMapping.layout : Layout Empty InputMapping where
  name := "InputMapping"
  fields :=
    .field "forward" "w" .text <|
    .field "backward" "s" .text <|
    .field "left" "a" .text <|
    .field "right" "d" .text <|
    .field "jump" "space" .text .nil
  build := fun (forward, backward, left, right, jump, _) => { forward, backward, left, right, jump }

/-- A character moved by input. -/
structure CharacterController where
  enabled : Bool
  /-- Steepest walkable slope in degrees. -/
  slopeLimit : Binary32
  stepOffset : Binary32
  skinWidth : Binary32
  gravityScale : Binary32
  maxSpeed : Binary32
  jumpStrength : Binary32
  controlMode : String
  authoredMapping : Option InputMapping
  isGrounded : Bool
deriving DecidableEq, BEq

namespace CharacterController

def layout : Layout Empty CharacterController where
  name := "CharacterController"
  fields :=
    .field "enabled" true .bool <|
    .field "slopeLimit" 45 .float32 <|
    .field "stepOffset" 0.3 .float32 <|
    .field "skinWidth" 0.08 .float32 <|
    .field "gravityScale" 1 .float32 <|
    .field "maxSpeed" 6 .float32 <|
    .field "jumpStrength" 6.5 .float32 <|
    .field "controlMode" "auto" .text <|
    .optional "inputMapping" InputMapping.layout.shape <|
    .field "isGrounded" false .bool .nil
  build := fun
    | (enabled, slopeLimit, stepOffset, skinWidth, gravityScale, maxSpeed, jumpStrength,
      controlMode, authoredMapping, isGrounded, _) =>
      { enabled, slopeLimit, stepOffset, skinWidth, gravityScale, maxSpeed, jumpStrength,
        controlMode, authoredMapping, isGrounded }

/-- The keys, the standard ones when none are authored. -/
def inputMapping (controller : CharacterController) : InputMapping :=
  controller.authoredMapping.getD {}

end CharacterController

end SceneLoad
