import SceneLoad.Prefab.Patch
import SceneLoad.Prefab.Registry
import SceneLoad.Scene.Record

/-!
# Prefab instances

An instance is stamped out of a template: one record a node, parents before children and siblings in
order. The `n`-th record of an instance with key `k` has the persistent id `k-n`. Subtrees below the
depth limit, and subtrees whose root is itself marked as an instance, are reported and left out. The
walk keeps a list of pending nodes, so deep templates need no deep recursion.
-/

namespace SceneLoad

/-- Deepest template level that is walked unless configured otherwise. -/
def standardMaxDepth : Nat := 64

/-- Keys for what has no authored one: the `n`-th key drawn during a pass is `supply n`. -/
abbrev KeySupply := Nat → String

/-- What to stamp out and where to anchor it. -/
structure InstanceRequest where
  prefabId : String
  seedPersistentId : String
  /-- The key of the instance; a fresh one is drawn when it is absent or empty. -/
  instanceUuid : Option String := none
  overridePatch : Option Json := none

/-- The request that a marker on an entity stands for. -/
def InstanceRequest.ofMarker (marker : PrefabInstance) (seed : String) : InstanceRequest where
  prefabId := marker.prefabId
  seedPersistentId := seed
  instanceUuid := marker.instanceUuid
  overridePatch := marker.overridePatch

/-- A key that is present and not empty. -/
def usableKey : Option String → Option String
  | some key => if key = "" then none else some key
  | none => none

/-- Why nothing was stamped out. -/
inductive InstanceError where
  | prefabNotFound (prefabId seed : String)
  | idsExhausted (prefabId seed : String)
deriving DecidableEq

namespace InstanceError

def code : InstanceError → DiagnosticCode
  | .prefabNotFound _ _ => .prefabNotFound
  | .idsExhausted _ _ => .entityIdsExhausted

/-- The entity that asked for the instance. -/
def seed : InstanceError → String
  | .prefabNotFound _ seed => seed
  | .idsExhausted _ seed => seed

def message : InstanceError → String
  | .prefabNotFound prefabId seed =>
    "prefab '" ++ prefabId ++ "' is not registered (seed '" ++ seed ++ "')"
  | .idsExhausted prefabId seed =>
    "runtime entity ids are exhausted while instantiating '" ++ prefabId ++ "' (seed '" ++ seed ++
      "')"

def diagnostic (error : InstanceError) : Diagnostic :=
  { code := error.code, message := error.message, entity := some error.seed }

end InstanceError

/-- A node waiting to be stamped out. -/
structure PendingNode where
  node : Template
  /-- Persistent id of the parent. -/
  parent : String
  /-- Level in the template; the root has 1. -/
  level : Nat

namespace PendingNode

/-- Nodes of all the pending trees. -/
def total (pending : List PendingNode) : Nat := Template.sizeAll (pending.map PendingNode.node)

/-- The children of a node, one level below it. -/
def childrenOf (parent : String) (level : Nat) (node : Template) : List PendingNode :=
  node.children.map fun child => { node := child, parent, level := level + 1 }

theorem total_cons (item : PendingNode) (pending : List PendingNode) :
    total (item :: pending) = item.node.size + total pending := rfl

theorem total_append (xs ys : List PendingNode) : total (xs ++ ys) = total xs + total ys := by
  simp [total, Template.sizeAll_append]

theorem total_childrenOf (parent : String) (level : Nat) (node : Template) :
    total (childrenOf parent level node) + 1 = node.size := by
  simp [total, childrenOf, Function.comp_def, Template.size_eq]

end PendingNode

/-- What a walk over pending nodes gives. -/
structure Walk where
  records : List Record := []
  diagnostics : List Diagnostic := []
  /-- The allocator after the walk. -/
  ids : IdAllocator
  /-- Whether the ids sufficed for all nodes. -/
  complete : Bool

namespace Walk

/-- The walk with something reported before it. -/
def reporting (diagnostics : List Diagnostic) (walk : Walk) : Walk :=
  { walk with diagnostics := diagnostics ++ walk.diagnostics }

/-- The walk with a record before it. -/
def recording (record : Record) (walk : Walk) : Walk :=
  { walk with records := record :: walk.records }

end Walk

/-- What instances are made from. -/
structure Instantiator where
  prefabs : PrefabRegistry
  decoders : DecoderRegistry
  maxDepth : Nat := standardMaxDepth

/-- What an attempt to stamp out an instance gives. -/
structure InstanceOutcome where
  result : Except InstanceError (List Record)
  diagnostics : List Diagnostic := []
  /-- The allocator afterwards. -/
  ids : IdAllocator
  /-- Number of keys drawn so far. -/
  drawn : Nat

namespace Instantiator

/-- The record of a template node. A persistent id in the template is for the template alone. -/
def recordOf (decoders : DecoderRegistry) (node : Template) (id : EntityId)
    (persistentId parent : String) : Record × List Diagnostic :=
  let entries := node.components.filter fun (kind, _) => kind ≠ PersistentId.kind
  let decoded := decoders.decodeEntries persistentId entries
  ({ runtimeId := id
     persistentId
     name := node.name
     parentPersistentId := some parent
     tags := node.tags
     components := decoded.components }, decoded.diagnostics)

/-- The report of a subtree below the depth limit. -/
def tooDeep (prefabId : String) (maxDepth : Nat) (item : PendingNode) : Diagnostic :=
  { code := .depthExceeded
    message := "prefab '" ++ prefabId ++ "' exceeds depth " ++ toString maxDepth ++ " at node '" ++
      item.node.name ++ "'; subtree skipped"
    entity := some item.parent }

/-- The report of a subtree that is itself marked as an instance. -/
def nestedInstance (prefabId : String) (item : PendingNode) : Diagnostic :=
  { code := .nestedPrefabInstance
    message := "nested prefab instance in '" ++ prefabId ++ "' at node '" ++ item.node.name ++
      "' is not supported; subtree skipped"
    entity := some item.parent
    component := some PrefabInstance.kind }

/-- The report of a pending node whose subtree is left out, if it is. -/
def pruned? (prefabId : String) (maxDepth : Nat) (item : PendingNode) : Option Diagnostic :=
  if maxDepth < item.level then some (tooDeep prefabId maxDepth item)
  else if Object.contains item.node.components PrefabInstance.kind then
    some (nestedInstance prefabId item)
  else none

/-- Works off the pending nodes; `index` counts the records before them. -/
def walk (self : Instantiator) (prefabId key : String) (ids : IdAllocator) (index : Nat) :
    List PendingNode → Walk
  | [] => { ids, complete := true }
  | item :: pending =>
    match pruned? prefabId self.maxDepth item with
    | some diagnostic => (self.walk prefabId key ids index pending).reporting [diagnostic]
    | none =>
      match ids.allocate with
      | none => { ids, complete := false }
      | some (id, ids) =>
        let persistentId := key ++ "-" ++ toString index
        let (record, diagnostics) := recordOf self.decoders item.node id persistentId item.parent
        let children := PendingNode.childrenOf persistentId item.level item.node
        ((self.walk prefabId key ids (index + 1) (children ++ pending)).recording record).reporting
          diagnostics
termination_by pending => PendingNode.total pending
decreasing_by
  · rw [PendingNode.total_cons, Template.size_eq]; omega
  · rw [PendingNode.total_append, PendingNode.total_cons,
      ← PendingNode.total_childrenOf (key ++ "-" ++ toString index) item.level item.node]
    omega

/-- The template under the request's patch. A patch that cannot be parsed is reported and does
nothing. -/
def patchedRoot (root : Template) (request : InstanceRequest) : Template × List Diagnostic :=
  match request.overridePatch with
  | none => (root, [])
  | some value =>
    match Patch.parse value with
    | .ok patch => if patch.isEmpty then (root, []) else patch.apply root
    | .error fault =>
      (root,
        [{ code := .malformedOverridePatch
           message := fault.payloadError.render ++ "; instantiating '" ++ request.prefabId ++
             "' unpatched"
           entity := some request.seedPersistentId }])

/-- Stamps out one instance under its seed. -/
def instantiate (self : Instantiator) (supply : KeySupply) (request : InstanceRequest)
    (ids : IdAllocator) (drawn : Nat) : InstanceOutcome :=
  match self.prefabs.get? request.prefabId with
  | none =>
    { result := .error (.prefabNotFound request.prefabId request.seedPersistentId), ids, drawn }
  | some definition =>
    let (root, patching) := patchedRoot definition.root request
    let (key, drawn) := match usableKey request.instanceUuid with
      | some key => (key, drawn)
      | none => (supply drawn, drawn + 1)
    let walk := self.walk definition.id key ids 0
      [{ node := root, parent := request.seedPersistentId, level := 1 }]
    { result :=
        if walk.complete then .ok walk.records
        else .error (.idsExhausted definition.id request.seedPersistentId)
      diagnostics := patching ++ walk.diagnostics
      ids := walk.ids
      drawn }

end Instantiator

end SceneLoad
