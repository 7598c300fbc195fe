import SceneLoad.Component.Audio
import SceneLoad.Component.Behaviour
import SceneLoad.Component.Geometry
import SceneLoad.Component.Lighting
import SceneLoad.Component.Physics
import SceneLoad.Component.Placement
import SceneLoad.Component.View

/-!
# Decoded components

A component is one of the built-in ones, or a value that a decoder of the host made out of its
payload and marked with a tag. `==` compares components as values: numbers numerically, raw JSON up
to the order of keys.
-/

namespace SceneLoad

/-- A decoded component. -/
inductive Component where
  | transform (value : Transform)
  | meshRenderer (value : MeshRenderer)
  | light (value : Light)
  | camera (value : Camera)
  | rigidBody (value : RigidBody)
  | meshCollider (value : MeshCollider)
  | material (value : Material)
  | customShape (value : CustomShape)
  | geometryAsset (value : GeometryAsset)
  | instanced (value : Instanced)
  | terrain (value : Terrain)
  | lod (value : Lod)
  | characterController (value : CharacterController)
  | sound (value : Sound)
  | script (value : Script)
  | prefabInstance (value : PrefabInstance)
  | persistentId (value : PersistentId)
  /-- A value of a decoder that the host registered. -/
  | custom (tag : String) (value : Json)
deriving BEq

namespace Component

/-- The transform, if the component is one. -/
def transform? : Component → Option Transform
  | .transform value => some value
  | _ => none

/-- The prefab marker, if the component is one. -/
def prefabInstance? : Component → Option PrefabInstance
  | .prefabInstance value => some value
  | _ => none

/-- The persistent id, if the component is one. -/
def persistentId? : Component → Option PersistentId
  | .persistentId value => some value
  | _ => none

end Component

end SceneLoad
