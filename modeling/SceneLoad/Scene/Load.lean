import SceneLoad.Prefab.Instance
import SceneLoad.Scene.Document

/-!
# Load passes

A pass registers the prefabs of a document and then goes through its entities once, in order. Each
entity gets a persistent id, its components are decoded, and it becomes a record; if it is marked as
a prefab instance, the instance's records follow it. The pass ends early when an entity's own record
can get no runtime id.
-/

namespace SceneLoad

/-- Settings of a pass. -/
structure LoadConfig where
  /-- Template levels walked before a subtree is cut off. -/
  maxPrefabDepth : Nat := standardMaxDepth
  /-- Whether entities themselves become records, and not only what they instantiate. -/
  emitSeedRecords : Bool := true
deriving DecidableEq

/-- What a pass produces. -/
structure Report where
  records : List Record := []
  registeredPrefabs : List String := []
  instantiatedSeeds : Nat := 0
  /-- Persistent ids of the entities whose instance could not be made. -/
  skippedSeeds : List String := []

/-- What a pass carries from one entity to the next. -/
structure PassState where
  ids : IdAllocator
  /-- Number of fresh keys drawn. -/
  drawn : Nat := 0
  /-- Persistent ids in use. -/
  seen : List String := []
  /-- Instance keys in use. -/
  instanceKeys : List String := []

/-- What one entity, or the rest of a pass, adds to the report and the log. -/
structure PassOutput where
  records : List Record := []
  instantiated : Nat := 0
  skipped : List String := []
  diagnostics : List Diagnostic := []

namespace PassOutput

/-- One output after another. -/
def append (first second : PassOutput) : PassOutput where
  records := first.records ++ second.records
  instantiated := first.instantiated + second.instantiated
  skipped := first.skipped ++ second.skipped
  diagnostics := first.diagnostics ++ second.diagnostics

instance : Append PassOutput := ⟨append⟩

end PassOutput

/-- What an entity does to a pass. -/
inductive EntityStep where
  /-- The pass goes on. -/
  | next (state : PassState) (output : PassOutput)
  /-- The runtime ids ran out and the pass ends. -/
  | stop (output : PassOutput)

/-- What a pass runs with. -/
structure Loader where
  decoders : DecoderRegistry
  config : LoadConfig := {}

namespace Loader

/-- The id that an entity's own `PersistentId` component gives it, if that decodes. -/
def componentId? (self : Loader) (entity : Entity) : Option String :=
  match Object.find? entity.components PersistentId.kind with
  | none => none
  | some payload =>
    match (self.decoders.decode PersistentId.kind payload).result with
    | .ok decoded => decoded.value.persistentId?.map PersistentId.id
    | .error _ => none

/-- The id that is authored for an entity: its persistent id, its `PersistentId` component, or one
made from its plain id. -/
def authoredId? (self : Loader) (entity : Entity) : Option String :=
  (usableKey entity.persistentId).or <|
    (self.componentId? entity).or <| entity.id.map fun id => "entity-" ++ id.render

/-- The persistent id of an entity and the number of keys drawn after it. -/
def resolveId (self : Loader) (supply : KeySupply) (entity : Entity) (drawn : Nat) : String × Nat :=
  match self.authoredId? entity with
  | some id => (id, drawn)
  | none => (supply drawn, drawn + 1)

/-- The report of an entity whose persistent id is in use. -/
def reusedId (id : String) : Diagnostic :=
  { code := .duplicatePersistentId
    message := "persistent id '" ++ id ++ "' is used by more than one entity"
    entity := some id }

/-- The report of an instance key that is in use. -/
def reusedKey (key seed : String) : Diagnostic :=
  { code := .duplicatePersistentId
    message := "instance uuid '" ++ key ++
      "' is used by more than one seed; generating a fresh key"
    entity := some seed }

/-- The report of an instantiated node whose persistent id is in use. -/
def collidingId (id : String) : Diagnostic :=
  { code := .duplicatePersistentId
    message := "instantiated id '" ++ id ++ "' collides with an earlier entity"
    entity := some id }

/-- The report of an entity that gets no runtime id. -/
def idsExhausted (entity : String) : Diagnostic :=
  { code := .entityIdsExhausted
    message := "runtime entity ids are exhausted; remaining entities skipped"
    entity := some entity }

/-- Adds an id to those in use. -/
def claim (id : String) (used : List String) : List String := if id ∈ used then used else id :: used

/-- Claims the ids of instantiated records in order and reports those that are in use. -/
def claimRecords : (seen : List String) → List Record → List String × List Diagnostic
  | seen, [] => (seen, [])
  | seen, record :: rest =>
    let (after, diagnostics) := claimRecords (claim record.persistentId seen) rest
    if record.persistentId ∈ seen then (after, collidingId record.persistentId :: diagnostics)
    else (after, diagnostics)

/-- Claims the request's key. One that is in use is reported and given up. -/
def claimKey (request : InstanceRequest) (used : List String) :
    InstanceRequest × List String × List Diagnostic :=
  match usableKey request.instanceUuid with
  | none => (request, used, [])
  | some key =>
    if key ∈ used then
      ({ request with instanceUuid := none }, used, [reusedKey key request.seedPersistentId])
    else (request, key :: used, [])

/-- Makes the instance that an entity is marked as. -/
def expand (self : Loader) (prefabs : PrefabRegistry) (supply : KeySupply) (state : PassState)
    (marker : PrefabInstance) (seed : String) : PassState × PassOutput :=
  let (request, instanceKeys, keyReports) :=
    claimKey (.ofMarker marker seed) state.instanceKeys
  let instantiator : Instantiator :=
    { prefabs, decoders := self.decoders, maxDepth := self.config.maxPrefabDepth }
  let outcome := instantiator.instantiate supply request state.ids state.drawn
  let state := { state with ids := outcome.ids, drawn := outcome.drawn, instanceKeys }
  match outcome.result with
  | .ok records =>
    let (seen, collisions) := claimRecords state.seen records
    ({ state with seen },
      { records, instantiated := 1,
        diagnostics := keyReports ++ outcome.diagnostics ++ collisions })
  | .error error =>
    (state,
      { skipped := [seed],
        diagnostics := keyReports ++ outcome.diagnostics ++ [error.diagnostic] })

/-- The record of an entity itself. -/
def seedRecord (entity : Entity) (runtimeId : EntityId) (persistentId : String)
    (components : SortedMap String DecodedComponent) : Record where
  runtimeId := runtimeId
  persistentId := persistentId
  name := entity.name.getD ""
  parentPersistentId := entity.parentPersistentId
  tags := entity.tags
  components := components

/-- The marker among decoded components. -/
def marker? (components : SortedMap String DecodedComponent) : Option PrefabInstance :=
  (SortedMap.find? components PrefabInstance.kind).bind fun decoded => decoded.value.prefabInstance?

/-- The part of a pass that follows an entity's own record. -/
def expandMarker (self : Loader) (prefabs : PrefabRegistry) (supply : KeySupply)
    (state : PassState) (marker : Option PrefabInstance) (seed : String) (output : PassOutput) :
    EntityStep :=
  match marker with
  | none => .next state output
  | some marker =>
    let (state, expansion) := self.expand prefabs supply state marker seed
    .next state (output ++ expansion)

/-- One entity of a pass. -/
def step (self : Loader) (prefabs : PrefabRegistry) (supply : KeySupply) (state : PassState)
    (entity : Entity) : EntityStep :=
  let (id, drawn) := self.resolveId supply entity state.drawn
  let reused := if id ∈ state.seen then [reusedId id] else []
  let state := { state with drawn, seen := claim id state.seen }
  let decoded := self.decoders.decodeEntries id entity.components
  let diagnostics := reused ++ decoded.diagnostics
  let marker := marker? decoded.components
  if self.config.emitSeedRecords then
    match state.ids.allocate with
    | none => .stop { diagnostics := diagnostics ++ [idsExhausted id] }
    | some (runtimeId, ids) =>
      self.expandMarker prefabs supply { state with ids } marker id
        { records := [seedRecord entity runtimeId id decoded.components], diagnostics }
  else self.expandMarker prefabs supply state marker id { diagnostics }

/-- The entities of a pass in order. -/
def run (self : Loader) (prefabs : PrefabRegistry) (supply : KeySupply) :
    PassState → List Entity → PassOutput
  | _, [] => {}
  | state, entity :: rest =>
    match self.step prefabs supply state entity with
    | .stop output => output
    | .next state output => output ++ self.run prefabs supply state rest

/-- Runs a pass. All prefabs are registered before the first entity is looked at. -/
def load (self : Loader) (document : Document) (ids : IdAllocator) (supply : KeySupply) :
    Report × List Diagnostic :=
  let (prefabs, registration) := PrefabRegistry.ofJson document.prefabs
  let output := self.run prefabs supply { ids } document.entities
  ({ records := output.records
     registeredPrefabs := prefabs.ids
     instantiatedSeeds := output.instantiated
     skippedSeeds := output.skipped }, registration ++ output.diagnostics)

end Loader

end SceneLoad
