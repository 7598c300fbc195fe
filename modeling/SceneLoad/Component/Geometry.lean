import SceneLoad.Component.Vectors

/-!
# Geometry components

What is drawn: meshes, materials, procedural shapes, imported geometry, instanced meshes, terrain
and levels of detail.
-/

namespace SceneLoad

/-- Draws a mesh with one or more materials. -/
structure MeshRenderer where
  meshId : Option String
  materialId : Option String
  materials : List String
  modelPath : Option String
  enabled : Bool
  castShadows : Bool
  receiveShadows : Bool
deriving DecidableEq, BEq

def MeshRenderer.layout : Layout Empty MeshRenderer where
  name := "MeshRenderer"
  fields :=
    .cons "meshId" ["mesh_id"] (some none) (.option .text) <|
    .cons "materialId" ["material_id"] (some none) (.option .text) <|
    .field "materials" [] (.list .text) <|
    .cons "modelPath" ["model_path"] (some none) (.option .text) <|
    .field "enabled" true .bool <|
    .cons "castShadows" ["cast_shadows"] (some true) .bool <|
    .cons "receiveShadows" ["receive_shadows"] (some true) .bool .nil
  build := fun
    | (meshId, materialId, materials, modelPath, enabled, castShadows, receiveShadows, _) =>
      { meshId, materialId, materials, modelPath, enabled, castShadows, receiveShadows }

/-- Binds an entry of the material library. -/
structure Material where
  id : Option String
deriving DecidableEq, BEq

def Material.layout : Layout Empty Material where
  name := "Material"
  fields :=
    .optional "id" .text .nil
  build := fun (id, _) => { id }

/-- A procedural shape; its parameters are for the generator that owns the shape. -/
structure CustomShape where
  shapeId : String
  params : Json
deriving BEq

def CustomShape.layout : Layout Empty CustomShape where
  name := "CustomShape"
  fields :=
    .field "shapeId" "" .text <|
    .field "params" .null .any .nil
  build := fun (shapeId, params, _) => { shapeId, params }

/-- Processing applied when a geometry file is imported. -/
structure GeometryOptions where
  recomputeNormals : Bool := false
  recomputeTangents : Bool := false
  recenter : Bool := false
  computeBounds : Bool := true
  flipNormals : Bool := false
  scale : Binary32 := 1
deriving DecidableEq, BEq

def GeometryOptions.layout : Layout Empty GeometryOptions where
  name := "GeometryAssetOptions"
  fields :=
    .field "recomputeNormals" false .bool <|
    .field "recomputeTangents" false .bool <|
    .field "recenter" false .bool <|
    .field "computeBounds" true .bool <|
    .field "flipNormals" false .bool <|
    .field "scale" 1 .float32 .nil
  build := fun
    | (recomputeNormals, recomputeTangents, recenter, computeBounds, flipNormals, scale, _) =>
      { recomputeNormals, recomputeTangents, recenter, computeBounds, flipNormals, scale }

/-- Geometry imported from a file. -/
structure GeometryAsset where
  path : String
  geometryId : Option String
  materialId : Option String
  enabled : Bool
  castShadows : Bool
  receiveShadows : Bool
  authoredOptions : Option GeometryOptions
deriving DecidableEq, BEq

namespace GeometryAsset

def layout : Layout Empty GeometryAsset where
  name := "GeometryAsset"
  fields :=
    .required "path" .text <|
    .optional "geometryId" .text <|
    .optional "materialId" .text <|
    .field "enabled" true .bool <|
    .field "castShadows" true .bool <|
    .field "receiveShadows" true .bool <|
    .optional "options" GeometryOptions.layout.shape .nil
  build := fun
    | (path, geometryId, materialId, enabled, castShadows, receiveShadows, authoredOptions, _) =>
      { path, geometryId, materialId, enabled, castShadows, receiveShadows, authoredOptions }

/-- The import options, the standard ones when none are authored. -/
def options (asset : GeometryAsset) : GeometryOptions := asset.authoredOptions.getD {}

end GeometryAsset

/-- One copy of an instanced mesh. -/
structure MeshInstance where
  position : Vec3
  rotation : Option Vec3
  scale : Option Vec3
  color : Option Vec3
  userData : Option Json
deriving BEq

namespace MeshInstance

def layout : Layout Empty MeshInstance where
  name := "InstanceData"
  fields :=
    .required "position" .triple <|
    .optional "rotation" .triple <|
    .optional "scale" .triple <|
    .optional "color" .triple <|
    .optional "userData" .any .nil
  build := fun
    | (position, rotation, scale, color, userData, _) =>
      { position, rotation, scale, color, userData }

/-- The scale, one when none is authored. -/
def effectiveScale (copy : MeshInstance) : Vec3 := copy.scale.getD .one

end MeshInstance

/-- Many copies of one mesh. -/
structure Instanced where
  enabled : Bool
  capacity : UInt32
  baseMeshId : String
  baseMaterialId : String
  instances : List MeshInstance
  castShadows : Bool
  receiveShadows : Bool
  frustumCulled : Bool
deriving BEq

def Instanced.layout : Layout Empty Instanced where
  name := "Instanced"
  fields :=
    .field "enabled" true .bool <|
    .field "capacity" 100 .uint32 <|
    .field "baseMeshId" "" .text <|
    .field "baseMaterialId" "" .text <|
    .field "instances" [] (.list MeshInstance.layout.shape) <|
    .field "castShadows" true .bool <|
    .field "receiveShadows" true .bool <|
    .cons "frustum_culled" ["frustumCulled"] (some true) .bool .nil
  build := fun
    | (enabled, capacity, baseMeshId, baseMaterialId, instances, castShadows, receiveShadows,
      frustumCulled, _) =>
      { enabled, capacity, baseMeshId, baseMaterialId, instances, castShadows, receiveShadows,
        frustumCulled }

/-- Terrain generated from fractal noise. -/
structure Terrain where
  /-- Width and depth. -/
  size : Binary32 × Binary32
  /-- Vertices along each axis. -/
  segments : UInt32 × UInt32
  heightScale : Binary32
  noiseEnabled : Bool
  noiseSeed : UInt32
  noiseFrequency : Binary32
  noiseOctaves : UInt8
  noisePersistence : Binary32
  noiseLacunarity : Binary32
deriving DecidableEq, BEq

def Terrain.layout : Layout Empty Terrain where
  name := "Terrain"
  fields :=
    .field "size" (20, 20) (.pair .float32) <|
    .field "segments" (129, 129) (.pair .uint32) <|
    .field "heightScale" 2 .float32 <|
    .field "noiseEnabled" true .bool <|
    .field "noiseSeed" 1337 .uint32 <|
    .field "noiseFrequency" 4 .float32 <|
    .field "noiseOctaves" 4 .uint8 <|
    .field "noisePersistence" 0.5 .float32 <|
    .field "noiseLacunarity" 2 .float32 .nil
  build := fun
    | (size, segments, heightScale, noiseEnabled, noiseSeed, noiseFrequency, noiseOctaves,
      noisePersistence, noiseLacunarity, _) =>
      { size, segments, heightScale, noiseEnabled, noiseSeed, noiseFrequency, noiseOctaves,
        noisePersistence, noiseLacunarity }

/-- A level of detail. -/
inductive LodQuality where
  | original
  | highFidelity
  | lowFidelity
deriving DecidableEq, BEq

namespace LodQuality

/-- The authored names of the levels. -/
def names : List (String × LodQuality) :=
  [("Original", .original), ("HighFidelity", .highFidelity), ("LowFidelity", .lowFidelity)]

end LodQuality

/-- Level-of-detail overrides of one entity. -/
structure Lod where
  originalPath : String
  highFidelityPath : Option String
  lowFidelityPath : Option String
  /-- Switch distances, high before low. -/
  distanceThresholds : Option (Binary32 × Binary32)
  overrideQuality : Option LodQuality
  currentQuality : Option LodQuality
deriving DecidableEq, BEq

def Lod.layout : Layout Empty Lod where
  name := "Lod"
  fields :=
    .required "originalPath" .text <|
    .optional "highFidelityPath" .text <|
    .optional "lowFidelityPath" .text <|
    .optional "distanceThresholds" (.pair .float32) <|
    .optional "overrideQuality" (.variant LodQuality.names) <|
    .optional "currentQuality" (.variant LodQuality.names) .nil
  build := fun
    | (originalPath, highFidelityPath, lowFidelityPath, distanceThresholds, overrideQuality,
      currentQuality, _) =>
      { originalPath, highFidelityPath, lowFidelityPath, distanceThresholds, overrideQuality,
        currentQuality }

end SceneLoad
