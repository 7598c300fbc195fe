import SceneLoad.Component.Decoder
import SceneLoad.Prefab.Template

/-!
# Prefab definitions

A prefab definition is a template tree with an id, a version and the ids of the prefabs it depends
on. Definitions are parsed one by one; one that fails is reported and left out.
-/

namespace SceneLoad

/-- A reusable template. -/
structure Definition where
  id : String
  name : String
  version : UInt32 := 1
  root : Template
  metadata : Object := []
  dependencies : List String := []
  tags : List String := []
  description : Option String := none

namespace Definition

/-- A definition that is named by its id. -/
def ofRoot (id : String) (root : Template) : Definition := { id, name := id, root }

/-- The definition with one more dependency. -/
def withDependency (definition : Definition) (prefabId : String) : Definition :=
  { definition with dependencies := definition.dependencies ++ [prefabId] }

/-- How a definition is written. -/
def layout : Layout Template Definition where
  name := "PrefabDefinition"
  fields :=
    .required "id" .text <|
    .field "name" "" .text <|
    .field "version" 1 .uint32 <|
    .required "root" .self <|
    .field "metadata" [] .object <|
    .field "dependencies" [] (.list .text) <|
    .field "tags" [] (.list .text) <|
    .optional "description" .text .nil
  build := fun
    | (id, name, version, root, metadata, dependencies, tags, description, _) =>
      { id, name, version, root, metadata, dependencies, tags, description }

/-- Reads a definition. -/
def read (value : Json) : Except Fault Definition := layout.shape.readWith Template.read value

/-- The definition as JSON. A description that is absent is left out. -/
def toJson (definition : Definition) : Json :=
  .obj <|
    [("id", .str definition.id),
      ("name", .str definition.name),
      ("version", .num (.int definition.version.toNat)),
      ("root", definition.root.toJson),
      ("metadata", .obj definition.metadata),
      ("dependencies", .arr (definition.dependencies.map Json.str)),
      ("tags", .arr (definition.tags.map Json.str))] ++
    match definition.description with
    | none => []
    | some text => [("description", .str text)]

/-- What a report calls the definition at a position: its id if it has one in text form. -/
def label (index : Nat) (value : Json) : String :=
  ((value.field? "id").bind Json.text?).getD ("prefabs[" ++ toString index ++ "]")

/-- Parses the definition at a position. -/
def parse (index : Nat) (value : Json) : Except Diagnostic Definition :=
  match read value with
  | .error fault =>
    .error { code := .malformedPrefab, message := (PayloadError.ofFault fault).render,
             entity := some (label index value) }
  | .ok definition =>
    if Text.isBlankText definition.id then
      .error { code := .malformedPrefab, message := "prefab id is empty",
               entity := some (label index value) }
    else .ok definition

/-- Parses definitions in order, the first at position `index`. -/
def parseFrom (index : Nat) : List Json → List Definition × List Diagnostic
  | [] => ([], [])
  | value :: rest =>
    let (definitions, diagnostics) := parseFrom (index + 1) rest
    match parse index value with
    | .ok definition => (definition :: definitions, diagnostics)
    | .error diagnostic => (definitions, diagnostic :: diagnostics)

/-- Parses definitions: those that can be read, and a diagnostic for each of the others. -/
def parseAll (values : List Json) : List Definition × List Diagnostic := parseFrom 0 values

end Definition

end SceneLoad
