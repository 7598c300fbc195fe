import SceneLoad.Component.Registry
import SceneLoad.Scene.Allocator

/-!
# Entity records

A load pass produces records: entities with a runtime id, a persistent id and decoded components by
kind. Components that cannot be decoded are reported and left out.
-/

namespace SceneLoad

/-- A decoded entity. -/
structure Record where
  runtimeId : EntityId
  persistentId : String
  name : String
  parentPersistentId : Option String
  tags : List String
  components : SortedMap String DecodedComponent

namespace Record

/-- The component stored under a kind. -/
def component? (record : Record) (kind : String) : Option DecodedComponent :=
  SortedMap.find? record.components kind

def hasComponent (record : Record) (kind : String) : Bool :=
  SortedMap.contains record.components kind

/-- The kinds of the components, ascending. -/
def kinds (record : Record) : List String := SortedMap.keys record.components

end Record

/-- What is made of the components of one entity. -/
structure DecodedEntries where
  components : SortedMap String DecodedComponent
  diagnostics : List Diagnostic

/-- The components with one more, if it could be decoded. -/
def DecodeOutcome.store (components : SortedMap String DecodedComponent)
    (outcome : DecodeOutcome) : SortedMap String DecodedComponent :=
  match outcome.result with
  | .ok decoded => SortedMap.insert decoded.kind decoded components
  | .error _ => components

namespace DecoderRegistry

/-- Decodes the components of an entity in authored order. -/
def decodeEntries (registry : DecoderRegistry) (entity : String) (entries : Object) :
    DecodedEntries :=
  let outcomes := entries.map fun (kind, payload) => registry.decode kind payload
  { components := outcomes.foldl DecodeOutcome.store []
    diagnostics := outcomes.flatMap fun outcome =>
      outcome.diagnostics.map (Diagnostic.within entity) }

end DecoderRegistry

end SceneLoad
