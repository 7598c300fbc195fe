import SceneLoad.Component.Vectors

/-!
# Lights
-/

namespace SceneLoad

/-- How a light spreads. -/
inductive LightType where
  | directional
  | point
  | spot
  | ambient
  | hemisphere
deriving DecidableEq, BEq

namespace LightType

/-- The authored names of the types. -/
def names : List (String × LightType) :=
  [("directional", .directional), ("point", .point), ("spot", .spot), ("ambient", .ambient),
    ("hemisphere", .hemisphere)]

end LightType

/-- Linear color; channels above one are kept. -/
structure LightColor where
  r : Binary32 := 1
  g : Binary32 := 1
  b : Binary32 := 1
deriving DecidableEq, BEq

def LightColor.layout : Layout Empty LightColor where
  name := "LightColor"
  fields :=
    .field "r" 1 .float32 <|
    .field "g" 1 .float32 <|
    .field "b" 1 .float32 .nil
  build := fun (r, g, b, _) => { r, g, b }

/-- A light source. -/
structure Light where
  lightType : LightType
  enabled : Bool
  color : LightColor
  intensity : Binary32
  range : Binary32
  decay : Binary32
  angle : Binary32
  penumbra : Binary32
  castShadow : Bool
  direction : Vec3
  shadowMapSize : UInt32
  shadowBias : Binary32
  shadowRadius : Binary32
deriving DecidableEq, BEq

namespace Light

/-- The opening angle of a spot light, a sixth of a half turn. -/
def standardAngle : Binary32 := 0.52359877559829887307710723054658381

def layout : Layout Empty Light where
  name := "Light"
  fields :=
    .cons "lightType" ["type"] (some .directional) (.variant LightType.names) <|
    .field "enabled" true .bool <|
    .field "color" {} LightColor.layout.shape <|
    .field "intensity" 1 .float32 <|
    .field "range" 10 .float32 <|
    .field "decay" 1 .float32 <|
    .field "angle" standardAngle .float32 <|
    .field "penumbra" 0.1 .float32 <|
    .field "castShadow" true .bool <|
    .field "directionX" 0 .float32 <|
    .field "directionY" (-1) .float32 <|
    .field "directionZ" 0 .float32 <|
    .field "shadowMapSize" 2048 .uint32 <|
    .field "shadowBias" (-0.0001) .float32 <|
    .field "shadowRadius" 2 .float32 .nil
  build := fun
    | (lightType, enabled, color, intensity, range, decay, angle, penumbra, castShadow, x, y, z,
      shadowMapSize, shadowBias, shadowRadius, _) =>
      { lightType, enabled, color, intensity, range, decay, angle, penumbra, castShadow,
        direction := ⟨x, y, z⟩, shadowMapSize, shadowBias, shadowRadius }

end Light

end SceneLoad
