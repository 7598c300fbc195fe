import SceneLoad.Schema.Scan

/-!
# Scene documents

A scene document lists entities with undecoded components, and prefab definitions, which stay raw
until they are registered. Documents are read from text; what follows the document in the text is
not looked at.
-/

namespace SceneLoad

/-- An authored entity id; scene files use both numbers and texts. -/
inductive AuthoredId where
  | number (value : UInt64)
  | text (value : String)
deriving DecidableEq

namespace AuthoredId

def shape : Shape Empty AuthoredId :=
  .either "AuthoredEntityId" (.map .number .uint64) (.map .text .text)

def render : AuthoredId → String
  | .number value => toString value.toNat
  | .text value => value

def toJson : AuthoredId → Json
  | .number value => .num (.int value.toNat)
  | .text value => .str value

end AuthoredId

/-- An entity as it is authored. -/
structure Entity where
  id : Option AuthoredId := none
  persistentId : Option String := none
  name : Option String := none
  parentPersistentId : Option String := none
  tags : List String := []
  components : Object := []

/-- An entry for a value that is present. -/
def optionalEntry {α : Type} (key : String) (toJson : α → Json) : Option α → Object
  | none => []
  | some value => [(key, toJson value)]

namespace Entity

def layout : Layout Empty Entity where
  name := "SceneEntity"
  fields :=
    .optional "id" AuthoredId.shape <|
    .optional "persistentId" .text <|
    .optional "name" .text <|
    .optional "parentPersistentId" .text <|
    .field "tags" [] (.list .text) <|
    .field "components" [] .object .nil
  build := fun
    | (id, persistentId, name, parentPersistentId, tags, components, _) =>
      { id, persistentId, name, parentPersistentId, tags, components }

/-- The entity as JSON. What is absent, and empty tags, are left out. -/
def toJson (entity : Entity) : Json :=
  .obj <|
    optionalEntry "id" AuthoredId.toJson entity.id ++
    optionalEntry "persistentId" Json.str entity.persistentId ++
    optionalEntry "name" Json.str entity.name ++
    optionalEntry "parentPersistentId" Json.str entity.parentPersistentId ++
    (if entity.tags.isEmpty then [] else [("tags", .arr (entity.tags.map Json.str))]) ++
    [("components", .obj entity.components)]

end Entity

/-- A scene file. -/
structure Document where
  entities : List Entity := []
  /-- Prefab definitions, unparsed. -/
  prefabs : List Json := []

/-- Why a text is not a scene document. -/
structure DocumentError where
  fault : Fault
deriving DecidableEq

def DocumentError.message (error : DocumentError) : String :=
  "scene document is invalid at " ++ error.fault.path.render ++ ": " ++ error.fault.cause.message

namespace Document

def layout : Layout Empty Document where
  name := "SceneDocument"
  fields :=
    .field "entities" [] (.list Entity.layout.shape) <|
    .field "prefabs" [] (.list .any) .nil
  build := fun (entities, prefabs, _) => { entities, prefabs }

/-- Reads the document at the front of a text. -/
def parse (text : String) : Except DocumentError Document :=
  (layout.shape.scan text).mapError DocumentError.mk

/-- The document as JSON. -/
def toJson (document : Document) : Json :=
  .obj
    [("entities", .arr (document.entities.map Entity.toJson)),
      ("prefabs", .arr document.prefabs)]

end Document

end SceneLoad
