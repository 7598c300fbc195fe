/-!
# Diagnostics

Decoding and expanding a scene goes on after a problem and reports it. A diagnostic has a code, a
message and, where they are known, the entity and the component kind it is about.
-/

namespace SceneLoad

/-- The kinds of problem that loading recovers from. -/
inductive DiagnosticCode where
  | unknownComponentKind
  | malformedComponentPayload
  | prefabNotFound
  | cyclicDependency
  | depthExceeded
  | invalidTransformArity
  | malformedPrefab
  | malformedOverridePatch
  | childOverrideOutOfRange
  | nestedPrefabInstance
  | duplicatePersistentId
  | entityIdsExhausted
deriving DecidableEq

namespace DiagnosticCode

/-- Every code, in declaration order. -/
def all : List DiagnosticCode :=
  [.unknownComponentKind, .malformedComponentPayload, .prefabNotFound, .cyclicDependency,
    .depthExceeded, .invalidTransformArity, .malformedPrefab, .malformedOverridePatch,
    .childOverrideOutOfRange, .nestedPrefabInstance, .duplicatePersistentId, .entityIdsExhausted]

/-- The code as it is printed. -/
def name : DiagnosticCode → String
  | .unknownComponentKind => "unknown_component_kind"
  | .malformedComponentPayload => "malformed_component_payload"
  | .prefabNotFound => "prefab_not_found"
  | .cyclicDependency => "cyclic_dependency"
  | .depthExceeded => "depth_exceeded"
  | .invalidTransformArity => "invalid_transform_arity"
  | .malformedPrefab => "malformed_prefab"
  | .malformedOverridePatch => "malformed_override_patch"
  | .childOverrideOutOfRange => "child_override_out_of_range"
  | .nestedPrefabInstance => "nested_prefab_instance"
  | .duplicatePersistentId => "duplicate_persistent_id"
  | .entityIdsExhausted => "entity_ids_exhausted"

end DiagnosticCode

/-- A problem found while decoding or instantiating. `entity` is a persistent id for scene entities
and instantiated nodes, and a node name for template nodes. -/
structure Diagnostic where
  code : DiagnosticCode
  message : String
  entity : Option String := none
  component : Option String := none
deriving DecidableEq

namespace Diagnostic

/-- Names the entity of a diagnostic that has none. -/
def within (entity : String) (diagnostic : Diagnostic) : Diagnostic :=
  { diagnostic with entity := diagnostic.entity.or (some entity) }

/-- One line for people. -/
def render (diagnostic : Diagnostic) : String :=
  let subject := match diagnostic.entity, diagnostic.component with
    | some entity, some component => " (entity=" ++ entity ++ ", component=" ++ component ++ ")"
    | some entity, none => " (entity=" ++ entity ++ ")"
    | none, some component => " (component=" ++ component ++ ")"
    | none, none => ""
  diagnostic.code.name ++ ": " ++ diagnostic.message ++ subject

/-- How many diagnostics have a code. -/
def count (code : DiagnosticCode) (log : List Diagnostic) : Nat :=
  log.countP fun diagnostic => diagnostic.code = code

end Diagnostic

end SceneLoad
