import SceneLoad.Schema.Shape
import SceneLoad.Text.Blank

/-!
# Scripts, prefab markers and persistent ids

Components that say what an entity does and which entity it is.
-/

namespace SceneLoad

/-- A reference to a script asset. -/
structure ScriptRef where
  scriptId : String
  /-- `external` or `inline`. -/
  source : String
  path : Option String
  codeHash : Option String
deriving DecidableEq, BEq

def ScriptRef.layout : Layout Empty ScriptRef where
  name := "ScriptRef"
  fields :=
    .field "scriptId" "" .text <|
    .field "source" "" .text <|
    .optional "path" .text <|
    .optional "codeHash" .text .nil
  build := fun (scriptId, source, path, codeHash, _) => { scriptId, source, path, codeHash }

/-- A script attached to an entity; the parameters are for the script. -/
structure Script where
  enabled : Bool
  scriptPath : Option String
  scriptRef : Option ScriptRef
  code : Option String
  parameters : Json
deriving BEq

namespace Script

def layout : Layout Empty Script where
  name := "Script"
  fields :=
    .field "enabled" true .bool <|
    .cons "scriptPath" ["script_path"] (some none) (.option .text) <|
    .optional "scriptRef" ScriptRef.layout.shape <|
    .optional "code" .text <|
    .field "parameters" [] .object .nil
  build := fun
    | (enabled, scriptPath, scriptRef, code, parameters, _) =>
      { enabled, scriptPath, scriptRef, code, parameters := .obj parameters }

/-- Where the script is loaded from: its own path, or the referenced asset's. -/
def runtimePath (script : Script) : Option String :=
  script.scriptPath.or (script.scriptRef.bind ScriptRef.path)

def isExternal (script : Script) : Bool :=
  script.scriptRef.any fun ref => ref.source == "external"

/-- Whether there is anything to run. -/
def isRunnable (script : Script) : Bool := script.runtimePath.isSome || script.code.isSome

end Script

/-- Marks an entity to be expanded from a prefab. The patch is parsed when it is expanded, so a bad
one does not keep the marker from loading. -/
structure PrefabInstance where
  prefabId : String
  version : UInt32
  instanceUuid : Option String
  overridePatch : Option Json
deriving BEq

namespace PrefabInstance

/-- The component kind of the marker. -/
def kind : String := "PrefabInstance"

def layout : Layout Empty PrefabInstance where
  name := "PrefabInstance"
  fields :=
    .required "prefabId" .text <|
    .field "version" 1 .uint32 <|
    .optional "instanceUuid" .text <|
    .optional "overridePatch" .any .nil
  build := fun
    | (prefabId, version, instanceUuid, overridePatch, _) =>
      { prefabId, version, instanceUuid, overridePatch }

end PrefabInstance

/-- An id that outlives the session. -/
structure PersistentId where
  id : String
deriving DecidableEq, BEq

namespace PersistentId

/-- The component kind of persistent ids. -/
def kind : String := "PersistentId"

def layout : Layout Empty PersistentId where
  name := "PersistentId"
  fields :=
    .required "id" .text .nil
  build := fun (id, _) => { id }

end PersistentId

end SceneLoad
