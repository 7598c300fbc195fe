import SceneLoad.Component.Vectors

/-!
# Cameras
-/

namespace SceneLoad

/-- How a camera projects. -/
inductive ProjectionType where
  | perspective
  | orthographic
deriving DecidableEq, BEq

namespace ProjectionType

/-- The authored names of the types. -/
def names : List (String × ProjectionType) :=
  [("perspective", .perspective), ("orthographic", .orthographic)]

end ProjectionType

/-- Clear color; black with full alpha unless authored. -/
structure CameraColor where
  r : Binary32
  g : Binary32
  b : Binary32
  a : Binary32
deriving DecidableEq, BEq

def CameraColor.layout : Layout Empty CameraColor where
  name := "CameraColor"
  fields :=
    .field "r" 0 .float32 <|
    .field "g" 0 .float32 <|
    .field "b" 0 .float32 <|
    .field "a" 1 .float32 .nil
  build := fun (r, g, b, a, _) => { r, g, b, a }

/-- A part of the screen; the whole of it unless authored. -/
structure ViewportRect where
  x : Binary32 := 0
  y : Binary32 := 0
  width : Binary32 := 1
  height : Binary32 := 1
deriving DecidableEq, BEq

def ViewportRect.layout : Layout Empty ViewportRect where
  name := "ViewportRect"
  fields :=
    .field "x" 0 .float32 <|
    .field "y" 0 .float32 <|
    .field "width" 1 .float32 <|
    .field "height" 1 .float32 .nil
  build := fun (x, y, width, height, _) => { x, y, width, height }

/-- A camera. -/
structure Camera where
  /-- Vertical field of view in degrees. -/
  fov : Binary32
  near : Binary32
  far : Binary32
  isMain : Bool
  projectionType : ProjectionType
  orthographicSize : Binary32
  /-- Place among the cameras; the lower draws first. -/
  depth : Int32
  clearFlags : Option String
  backgroundColor : Option CameraColor
  skyboxTexture : Option String
  controlMode : Option String
  enableSmoothing : Bool
  followTarget : Option UInt32
  followOffset : Option Vec3
  smoothingSpeed : Binary32
  rotationSmoothing : Binary32
  viewportRect : Option ViewportRect
  hdr : Bool
  toneMapping : Option String
  toneMappingExposure : Binary32
  enablePostProcessing : Bool
  postProcessingPreset : Option String
  skyboxScale : Option Vec3
  skyboxRotation : Option Vec3
  skyboxRepeat : Option Vec2
  skyboxOffset : Option Vec2
  skyboxIntensity : Binary32
  skyboxBlur : Binary32
deriving DecidableEq, BEq

namespace Camera

def layout : Layout Empty Camera where
  name := "Camera"
  fields :=
    .field "fov" 60 .float32 <|
    .field "near" 0.1 .float32 <|
    .field "far" 100 .float32 <|
    .field "isMain" false .bool <|
    .field "projectionType" .perspective (.variant ProjectionType.names) <|
    .field "orthographicSize" 10 .float32 <|
    .field "depth" 0 .int32 <|
    .optional "clearFlags" .text <|
    .optional "backgroundColor" CameraColor.layout.shape <|
    .optional "skyboxTexture" .text <|
    .optional "controlMode" .text <|
    .field "enableSmoothing" false .bool <|
    .optional "followTarget" .uint32 <|
    .optional "followOffset" .vector3 <|
    .field "smoothingSpeed" 5 .float32 <|
    .field "rotationSmoothing" 5 .float32 <|
    .optional "viewportRect" ViewportRect.layout.shape <|
    .field "hdr" false .bool <|
    .optional "toneMapping" .text <|
    .field "toneMappingExposure" 1 .float32 <|
    .field "enablePostProcessing" false .bool <|
    .optional "postProcessingPreset" .text <|
    .optional "skyboxScale" .vector3 <|
    .optional "skyboxRotation" .vector3 <|
    .optional "skyboxRepeat" .vector2 <|
    .optional "skyboxOffset" .vector2 <|
    .field "skyboxIntensity" 1 .float32 <|
    .field "skyboxBlur" 0 .float32 .nil
  build := fun
    | (fov, near, far, isMain, projectionType, orthographicSize, depth, clearFlags,
      backgroundColor, skyboxTexture, controlMode, enableSmoothing, followTarget, followOffset,
      smoothingSpeed, rotationSmoothing, viewportRect, hdr, toneMapping, toneMappingExposure,
      enablePostProcessing, postProcessingPreset, skyboxScale, skyboxRotation, skyboxRepeat,
      skyboxOffset, skyboxIntensity, skyboxBlur, _) =>
      { fov, near, far, isMain, projectionType, orthographicSize, depth, clearFlags,
        backgroundColor, skyboxTexture, controlMode, enableSmoothing, followTarget, followOffset,
        smoothingSpeed, rotationSmoothing, viewportRect, hdr, toneMapping, toneMappingExposure,
        enablePostProcessing, postProcessingPreset, skyboxScale, skyboxRotation, skyboxRepeat,
        skyboxOffset, skyboxIntensity, skyboxBlur }

/-- The viewport, the whole screen when none is authored. -/
def viewport (camera : Camera) : ViewportRect := camera.viewportRect.getD {}

end Camera

end SceneLoad
