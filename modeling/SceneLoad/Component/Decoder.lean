import SceneLoad.Component.Basic
import SceneLoad.Component.Capabilities
import SceneLoad.Diagnostic
import SceneLoad.Schema.Read

/-!
# Decoders

A decoder claims component kinds and turns payloads into components. Problems that leave a usable
component are diagnostics beside the result; others are a `PayloadError`. The decoders of the
built-in components all come from a `Payload`: they read its layout and then make the component of
what was read.
-/

namespace SceneLoad

/-- Why a payload is refused, and where. -/
structure PayloadError where
  path : String
  message : String
deriving DecidableEq

namespace PayloadError

def render (error : PayloadError) : String := error.message ++ " at " ++ error.path

/-- A fault of the payload's shape. -/
def ofFault (fault : Fault) : PayloadError := ⟨fault.path.render, fault.cause.message⟩

end PayloadError

/-- What decoding a payload gives. -/
structure Decoding where
  result : Except PayloadError Component
  diagnostics : List Diagnostic := []

namespace Decoding

/-- A component without any problem. -/
def clean (component : Component) : Decoding := { result := .ok component }

/-- The component, if the condition holds. -/
def ensure (condition : Bool) (path message : String) (component : Component) : Decoding :=
  if condition then clean component else { result := .error ⟨path, message⟩ }

end Decoding

/-- A decoder of one or more component kinds. -/
structure Decoder where
  kinds : List String
  capabilities : Capabilities
  decode : Json → Decoding

/-- The report of a transform's field of the wrong length. -/
def ArityError.diagnostic (error : ArityError) : Diagnostic :=
  { code := .invalidTransformArity, message := error.message, component := some "Transform" }

/-- A built-in component: the kinds it answers to, what it affects, how its payload is laid out and
what is made of it once it has been read. -/
structure Payload where
  {content : Type}
  kinds : List String
  capabilities : Capabilities
  layout : Layout Empty content
  complete : content → Decoding

namespace Payload

/-- Reads a payload and makes the component of it. -/
def decode (self : Payload) (value : Json) : Decoding :=
  match self.layout.shape.read value with
  | .ok content => self.complete content
  | .error fault => { result := .error (.ofFault fault) }

/-- The decoder of a built-in component. -/
def decoder (self : Payload) : Decoder := ⟨self.kinds, self.capabilities, self.decode⟩

/-- The transform; a field of the wrong length is reported and falls back to the identity's. -/
def completeTransform (authored : AuthoredTransform) : Decoding where
  result := .ok (.transform authored.transform)
  diagnostics := authored.arityErrors.map ArityError.diagnostic

def transform : Payload :=
  ⟨["Transform"], .rendering "geometry", AuthoredTransform.layout, completeTransform⟩

def meshRenderer : Payload :=
  ⟨["MeshRenderer"], .rendering "geometry", MeshRenderer.layout, (.clean <| .meshRenderer ·)⟩

def light : Payload := ⟨["Light"], .rendering "shadow", Light.layout, (.clean <| .light ·)⟩

def camera : Payload := ⟨["Camera"], .rendering "geometry", Camera.layout, (.clean <| .camera ·)⟩

def rigidBody : Payload := ⟨["RigidBody"], .none, RigidBody.layout, (.clean <| .rigidBody ·)⟩

def meshCollider : Payload :=
  ⟨["MeshCollider"], .none, MeshCollider.layout, (.clean <| .meshCollider ·)⟩

def material : Payload :=
  ⟨["Material"], .rendering "geometry", Material.layout, (.clean <| .material ·)⟩

def customShape : Payload :=
  ⟨["CustomShape"], .rendering "geometry", CustomShape.layout, (.clean <| .customShape ·)⟩

def geometryAsset : Payload :=
  ⟨["GeometryAsset"], .rendering "geometry", GeometryAsset.layout, (.clean <| .geometryAsset ·)⟩

def instanced : Payload :=
  ⟨["Instanced"], .rendering "geometry", Instanced.layout, (.clean <| .instanced ·)⟩

def terrain : Payload :=
  ⟨["Terrain"], .rendering "geometry", Terrain.layout, (.clean <| .terrain ·)⟩

/-- Answers to both the short and the long kind name. -/
def lod : Payload :=
  ⟨["LOD", "LodComponent"], .rendering "geometry", Lod.layout, (.clean <| .lod ·)⟩

def characterController : Payload :=
  ⟨["CharacterController"], .none, CharacterController.layout, (.clean <| .characterController ·)⟩

def sound : Payload :=
  ⟨["Sound"], Capabilities.none.withPass "audio", Sound.layout, (.clean <| .sound ·)⟩

/-- A script has to have something to run. -/
def script : Payload :=
  ⟨["Script"], .none, Script.layout, fun content =>
    .ensure content.isRunnable "" "one of scriptPath, scriptRef.path or code is required"
      (.script content)⟩

/-- A marker has to name a prefab. -/
def prefabInstance : Payload :=
  ⟨[PrefabInstance.kind], .none, PrefabInstance.layout, fun content =>
    .ensure (content.prefabId != "") "prefabId" "must not be empty" (.prefabInstance content)⟩

/-- A persistent id is not blank. -/
def persistentId : Payload :=
  ⟨[PersistentId.kind], .none, PersistentId.layout, fun content =>
    .ensure (!Text.isBlankText content.id) "id" "must not be empty" (.persistentId content)⟩

/-- The built-in components. -/
def standard : List Payload :=
  [transform, meshRenderer, light, camera, rigidBody, meshCollider, material, customShape,
    geometryAsset, instanced, terrain, lod, characterController, sound, script, prefabInstance,
    persistentId]

end Payload

end SceneLoad
