import Mathlib.Tactic.SplitIfs
import SceneLoad.Prefab.Instance

/-!
# Instances as pre-order walks

`Instantiator.walk` works off a list of pending nodes. `preorder` is the recursive walk of the same
tree : a node below the depth limit, or one that is itself marked as an instance, is one visit that
stands for its whole subtree; every other node is a visit with a number, followed by the visits of
its children from left to right. A number counts the nodes kept before, and names the node
(`nodeId`), also as the parent of its children.

`stamp` hands out runtime ids along a list of visits. The walk over any pending nodes is the stamped
list of their visits (`walk_eq_stamp`), whether the ids suffice or not. Its log follows the visits
that are made before the ids run out (`diagnostics_stamp_walked`). When they suffice, these are all
the visits (`walked_of_complete`), and the `n`-th kept node becomes the `n`-th record, under the
`n`-th id of the allocator (`records_stamp`). `instantiate_preorder` says this of a whole instance.
-/

namespace SceneLoad

/-- The persistent id of the node with a number in the instance with a key. -/
def nodeId (key : String) (number : Nat) : String := key ++ "-" ++ toString number

/-- The id that the allocator hands out after `n` others. -/
def IdAllocator.nth? : IdAllocator → Nat → Option EntityId
  | allocator, 0 => allocator.allocate.map Prod.fst
  | allocator, n + 1 => allocator.allocate.bind fun (_, next) => next.nth? n

/-! ## Visits -/

/-- What a walk makes of a node. -/
inductive Visit where
  /-- The node is below the depth limit. Its subtree is left out. -/
  | tooDeep (item : PendingNode)
  /-- The node is itself marked as an instance. Its subtree is left out. -/
  | nested (item : PendingNode)
  /-- The node becomes the record with this number. -/
  | kept (item : PendingNode) (number : Nat)

namespace Visit

/-- The node that becomes a record. -/
def kept? : Visit → Option PendingNode
  | .kept item _ => some item
  | _ => none

/-- The nodes that become records, in order. -/
def keptNodes (visits : List Visit) : List PendingNode := visits.filterMap kept?

@[simp] theorem keptNodes_nil : keptNodes [] = [] := rfl

@[simp] theorem keptNodes_tooDeep (item : PendingNode) (rest : List Visit) :
    keptNodes (.tooDeep item :: rest) = keptNodes rest := rfl

@[simp] theorem keptNodes_nested (item : PendingNode) (rest : List Visit) :
    keptNodes (.nested item :: rest) = keptNodes rest := rfl

@[simp] theorem keptNodes_kept (item : PendingNode) (number : Nat) (rest : List Visit) :
    keptNodes (.kept item number :: rest) = item :: keptNodes rest := rfl

theorem keptNodes_append (xs ys : List Visit) :
    keptNodes (xs ++ ys) = keptNodes xs ++ keptNodes ys :=
  List.filterMap_append ..

/-- What a visit adds to the log : one report of a subtree that is left out, or what the decoders
say about the components of a kept node. -/
def diagnostics (self : Instantiator) (prefabId key : String) : Visit → List Diagnostic
  | .tooDeep item => [Instantiator.tooDeep prefabId self.maxDepth item]
  | .nested item => [Instantiator.nestedInstance prefabId item]
  | .kept item number =>
    (self.decoders.decodeEntries (nodeId key number)
      (item.node.components.filter fun (kind, _) => kind ≠ PersistentId.kind)).diagnostics

end Visit

open Visit

mutual

/-- The visits of a tree in pre-order. `number` counts the nodes kept before it. -/
def preorder (maxDepth : Nat) (key parent : String) (level number : Nat) : Template → List Visit
  | ⟨name, tags, components, children⟩ =>
    let item : PendingNode := { node := ⟨name, tags, components, children⟩, parent, level }
    if maxDepth < level then [.tooDeep item]
    else if Object.contains components PrefabInstance.kind then [.nested item]
    else .kept item number ::
      preorderAll maxDepth key (nodeId key number) (level + 1) (number + 1) children

/-- The visits of several trees, one after another. -/
def preorderAll (maxDepth : Nat) (key parent : String) (level number : Nat) :
    List Template → List Visit
  | [] => []
  | child :: rest =>
    let visits := preorder maxDepth key parent level number child
    visits ++ preorderAll maxDepth key parent level (number + (keptNodes visits).length) rest

end

/-- The visits of pending nodes, one after another. -/
def preorderPending (maxDepth : Nat) (key : String) (number : Nat) : List PendingNode → List Visit
  | [] => []
  | item :: pending =>
    let visits := preorder maxDepth key item.parent item.level number item.node
    visits ++ preorderPending maxDepth key (number + (keptNodes visits).length) pending

theorem preorder_eq (maxDepth : Nat) (key : String) (number : Nat) (item : PendingNode) :
    preorder maxDepth key item.parent item.level number item.node =
      if maxDepth < item.level then [.tooDeep item]
      else if Object.contains item.node.components PrefabInstance.kind then [.nested item]
      else .kept item number ::
        preorderAll maxDepth key (nodeId key number) (item.level + 1) (number + 1)
          item.node.children := by
  obtain ⟨⟨name, tags, components, children⟩, parent, level⟩ := item
  rw [preorder]

theorem preorderPending_childrenOf (maxDepth : Nat) (key parent : String) (level : Nat) :
    ∀ (number : Nat) (children : List Template),
      preorderPending maxDepth key number
          (children.map fun child => { node := child, parent, level := level + 1 }) =
        preorderAll maxDepth key parent (level + 1) number children
  | _, [] => by simp [preorderPending, preorderAll]
  | number, child :: rest => by
    simp only [List.map_cons, preorderPending, preorderAll]
    rw [preorderPending_childrenOf maxDepth key parent level _ rest]

theorem preorderPending_append (maxDepth : Nat) (key : String) :
    ∀ (number : Nat) (xs ys : List PendingNode),
      preorderPending maxDepth key number (xs ++ ys) =
        preorderPending maxDepth key number xs ++
          preorderPending maxDepth key
            (number + (keptNodes (preorderPending maxDepth key number xs)).length) ys
  | number, [], ys => by simp [preorderPending, keptNodes]
  | number, x :: xs, ys => by
    simp only [List.cons_append, preorderPending, keptNodes_append, List.length_append]
    rw [preorderPending_append maxDepth key _ xs ys, List.append_assoc, Nat.add_assoc]

/-- A kept node is followed by its children, and these by what was pending with it. -/
theorem preorderPending_kept {maxDepth : Nat} {key : String} {number : Nat} {item : PendingNode}
    {pending : List PendingNode} (hlevel : ¬maxDepth < item.level)
    (hmark : ¬Object.contains item.node.components PrefabInstance.kind) :
    preorderPending maxDepth key number (item :: pending) =
      .kept item number ::
        preorderPending maxDepth key (number + 1)
          (PendingNode.childrenOf (nodeId key number) item.level item.node ++ pending) := by
  rw [preorderPending, preorder_eq, if_neg hlevel, if_neg hmark, preorderPending_append,
    PendingNode.childrenOf, preorderPending_childrenOf]
  simp [Nat.add_assoc, Nat.add_comm 1]

/-! ## The loop against the visits -/

/-- Makes the records of a list of visits, as far as the ids go. -/
def stamp (self : Instantiator) (prefabId key : String) : IdAllocator → List Visit → Walk
  | ids, [] => { ids, complete := true }
  | ids, .kept item number :: rest =>
    match ids.allocate with
    | none => { ids, complete := false }
    | some (id, ids) =>
      let (record, diagnostics) :=
        Instantiator.recordOf self.decoders item.node id (nodeId key number) item.parent
      ((stamp self prefabId key ids rest).recording record).reporting diagnostics
  | ids, visit :: rest =>
    (stamp self prefabId key ids rest).reporting (visit.diagnostics self prefabId key)

theorem kept_of_pruned?_eq_none {prefabId : String} {maxDepth : Nat} {item : PendingNode}
    (h : Instantiator.pruned? prefabId maxDepth item = none) :
    ¬maxDepth < item.level ∧ ¬Object.contains item.node.components PrefabInstance.kind := by
  unfold Instantiator.pruned? at h
  split_ifs at h with hlevel hmark
  exact ⟨hlevel, hmark⟩

/-- The loop over pending nodes is the loop over their visits. -/
theorem walk_eq_stamp (self : Instantiator) (prefabId key : String) (ids : IdAllocator)
    (number : Nat) (pending : List PendingNode) :
    self.walk prefabId key ids number pending =
      stamp self prefabId key ids (preorderPending self.maxDepth key number pending) := by
  -- The induction is the loop's own : a kept node puts its children in front of what is pending.
  fun_induction Instantiator.walk self prefabId key ids number pending with
  | case1 ids number => rfl
  | case2 ids number item pending diagnostic hpruned ih =>
    unfold Instantiator.pruned? at hpruned
    rw [ih, preorderPending, preorder_eq]
    split_ifs at hpruned ⊢ with hlevel hmark
    · obtain rfl := Option.some.inj hpruned
      rfl
    · obtain rfl := Option.some.inj hpruned
      rfl
  | case3 ids number item pending hpruned hids =>
    obtain ⟨hlevel, hmark⟩ := kept_of_pruned?_eq_none hpruned
    rw [preorderPending_kept hlevel hmark, stamp, hids]
  | case4 ids number item pending hpruned id next hids persistentId record diagnostics hrecord
      children ih =>
    obtain ⟨hlevel, hmark⟩ := kept_of_pruned?_eq_none hpruned
    have hrecord' : Instantiator.recordOf self.decoders item.node id (nodeId key number)
        item.parent = (record, diagnostics) := hrecord
    rw [preorderPending_kept hlevel hmark, stamp, hids, ih]
    simp only [hrecord']
    rfl

/-! ## Visits that are made -/

/-- The visits that are made before the ids run out. -/
def walked : IdAllocator → List Visit → List Visit
  | _, [] => []
  | ids, .kept item number :: rest =>
    match ids.allocate with
    | none => []
    | some (_, ids) => .kept item number :: walked ids rest
  | ids, visit :: rest => visit :: walked ids rest

theorem walked_tooDeep (ids : IdAllocator) (item : PendingNode) (rest : List Visit) :
    walked ids (.tooDeep item :: rest) = .tooDeep item :: walked ids rest := rfl

theorem walked_nested (ids : IdAllocator) (item : PendingNode) (rest : List Visit) :
    walked ids (.nested item :: rest) = .nested item :: walked ids rest := rfl

/-- The log of a walk is that of the visits it makes, whether the ids suffice or not. -/
theorem diagnostics_stamp_walked (self : Instantiator) (prefabId key : String) :
    ∀ (visits : List Visit) (ids : IdAllocator),
      (stamp self prefabId key ids visits).diagnostics =
        (walked ids visits).flatMap (Visit.diagnostics self prefabId key)
  | [], _ => rfl
  | .tooDeep _ :: rest, ids => by
    rw [walked_tooDeep, List.flatMap_cons, ← diagnostics_stamp_walked self prefabId key rest ids]
    rfl
  | .nested _ :: rest, ids => by
    rw [walked_nested, List.flatMap_cons, ← diagnostics_stamp_walked self prefabId key rest ids]
    rfl
  | .kept item number :: rest, ids => by
    rw [stamp, walked]
    cases hids : ids.allocate with
    | none => rfl
    | some next =>
      simp only [List.flatMap_cons, ← diagnostics_stamp_walked self prefabId key rest next.2]
      rfl

theorem walked_prefix_self : ∀ (visits : List Visit) (ids : IdAllocator),
    walked ids visits <+: visits
  | [], _ => List.prefix_refl _
  | .tooDeep item :: rest, ids => by
    rw [walked_tooDeep]
    exact List.cons_prefix_cons.2 ⟨rfl, walked_prefix_self rest ids⟩
  | .nested item :: rest, ids => by
    rw [walked_nested]
    exact List.cons_prefix_cons.2 ⟨rfl, walked_prefix_self rest ids⟩
  | .kept item number :: rest, ids => by
    rw [walked]
    cases ids.allocate with
    | none => exact List.nil_prefix
    | some next => exact List.cons_prefix_cons.2 ⟨rfl, walked_prefix_self rest next.2⟩

/-- A walk that is not cut short makes all visits. -/
theorem walked_of_complete (self : Instantiator) (prefabId key : String) :
    ∀ (visits : List Visit) (ids : IdAllocator),
      (stamp self prefabId key ids visits).complete = true → walked ids visits = visits
  | [], _, _ => rfl
  | .tooDeep item :: rest, ids, h => by
    rw [walked_tooDeep, walked_of_complete self prefabId key rest ids h]
  | .nested item :: rest, ids, h => by
    rw [walked_nested, walked_of_complete self prefabId key rest ids h]
  | .kept item number :: rest, ids, h => by
    rw [stamp] at h
    rw [walked]
    cases hids : ids.allocate with
    | none => simp [hids] at h
    | some next =>
      simp only [hids] at h ⊢
      rw [walked_of_complete self prefabId key rest next.2 h]

/-! ## Two walks -/

/-- Two walks that are left with the same ids and cut short alike. `Records` and `Reports` say how
their records and their logs compare. -/
structure Walk.Related (Records : List Record → List Record → Prop)
    (Reports : List Diagnostic → List Diagnostic → Prop) (left right : Walk) : Prop where
  records : Records left.records right.records
  diagnostics : Reports left.diagnostics right.diagnostics
  ids : left.ids = right.ids
  complete : left.complete = right.complete

namespace Walk.Related

variable {Records Records' : List Record → List Record → Prop}
  {Reports Reports' : List Diagnostic → List Diagnostic → Prop} {left right : Walk}

/-- Walks stay related with more reports before them, if their logs do. -/
theorem reporting (h : left.Related Records Reports right) {log log' : List Diagnostic}
    (hlog : ∀ rest rest', Reports rest rest' → Reports' (log ++ rest) (log' ++ rest')) :
    (left.reporting log).Related Records Reports' (right.reporting log') :=
  ⟨h.records, hlog _ _ h.diagnostics, h.ids, h.complete⟩

/-- Walks stay related with one more record before them, if their records do. -/
theorem recording (h : left.Related Records Reports right) {record record' : Record}
    (hrecord : ∀ rest rest', Records rest rest' → Records' (record :: rest) (record' :: rest')) :
    (left.recording record).Related Records' Reports (right.recording record') :=
  ⟨hrecord _ _ h.records, h.diagnostics, h.ids, h.complete⟩

end Walk.Related

/-! ## Numbers -/

/-- The kept nodes are numbered one by one from `number`. -/
def Numbered : Nat → List Visit → Prop
  | _, [] => True
  | number, .kept _ n :: rest => n = number ∧ Numbered (number + 1) rest
  | number, _ :: rest => Numbered number rest

theorem numbered_append : ∀ {number : Nat} (xs : List Visit) {ys : List Visit},
    Numbered number xs → Numbered (number + (keptNodes xs).length) ys → Numbered number (xs ++ ys)
  | _, [], _, _, hys => hys
  | number, .kept item n :: xs, ys, ⟨hn, hxs⟩, hys => by
    refine ⟨hn, numbered_append xs hxs ?_⟩
    rwa [keptNodes_kept, List.length_cons, Nat.add_comm _ 1, ← Nat.add_assoc] at hys
  | _, .tooDeep _ :: xs, _, hxs, hys => numbered_append xs hxs hys
  | _, .nested _ :: xs, _, hxs, hys => numbered_append xs hxs hys

mutual

theorem numbered_preorder (maxDepth : Nat) (key parent : String) (level number : Nat) :
    ∀ template : Template, Numbered number (preorder maxDepth key parent level number template)
  | ⟨name, tags, components, children⟩ => by
    rw [preorder]
    split_ifs
    · trivial
    · trivial
    · exact ⟨rfl, numbered_preorderAll maxDepth key _ (level + 1) (number + 1) children⟩

theorem numbered_preorderAll (maxDepth : Nat) (key parent : String) (level number : Nat) :
    ∀ templates : List Template,
      Numbered number (preorderAll maxDepth key parent level number templates)
  | [] => trivial
  | child :: rest =>
    numbered_append _ (numbered_preorder maxDepth key parent level number child)
      (numbered_preorderAll maxDepth key parent level _ rest)

end

/-! ## Records and log of a walk that is not cut short -/

/-- When the ids suffice, the log follows the visits. -/
theorem diagnostics_stamp (self : Instantiator) (prefabId key : String) (visits : List Visit)
    (ids : IdAllocator) (h : (stamp self prefabId key ids visits).complete = true) :
    (stamp self prefabId key ids visits).diagnostics =
      visits.flatMap (Visit.diagnostics self prefabId key) := by
  rw [diagnostics_stamp_walked, walked_of_complete self prefabId key visits ids h]

/-- When the ids suffice, the `n`-th kept node is the `n`-th record and has the `n`-th id. -/
theorem records_stamp (self : Instantiator) (prefabId key : String) :
    ∀ (visits : List Visit) (ids : IdAllocator) (number : Nat), Numbered number visits →
      (stamp self prefabId key ids visits).complete = true →
        (stamp self prefabId key ids visits).records.length = (keptNodes visits).length ∧
          ∀ n item, (keptNodes visits)[n]? = some item → ∃ id, ids.nth? n = some id ∧
            (stamp self prefabId key ids visits).records[n]? =
              some (Instantiator.recordOf self.decoders item.node id (nodeId key (number + n))
                item.parent).1
  | [], _, _, _, _ => ⟨rfl, by simp⟩
  | .tooDeep _ :: rest, ids, number, hrest, h =>
    records_stamp self prefabId key rest ids number hrest h
  | .nested _ :: rest, ids, number, hrest, h =>
    records_stamp self prefabId key rest ids number hrest h
  | .kept item number' :: rest, ids, number, ⟨hnum, hrest⟩, h => by
    subst hnum
    rw [stamp] at h ⊢
    cases hids : ids.allocate with
    | none => simp [hids] at h
    | some next =>
      simp only [hids] at h ⊢
      obtain ⟨hlength, hrecords⟩ := records_stamp self prefabId key rest next.2 _ hrest h
      refine ⟨by simpa [Walk.recording, Walk.reporting] using hlength, fun n item' hitem => ?_⟩
      cases n with
      | zero =>
        obtain rfl := Option.some.inj hitem
        exact ⟨next.1, by simp [IdAllocator.nth?, hids], rfl⟩
      | succ n =>
        obtain ⟨id, hid, hrecord⟩ := hrecords n item' hitem
        refine ⟨id, by simpa [IdAllocator.nth?, hids] using hid, ?_⟩
        rw [← Nat.add_assoc, Nat.add_right_comm]
        exact hrecord

/-- Records and log are those of the pre-order walk of the tree `root` under a seed. -/
structure FollowsPreorder (instantiator : Instantiator) (prefabId key seed : String)
    (ids : IdAllocator) (root : Template) (records : List Record) (log : List Diagnostic) :
    Prop where
  /-- There is one record for each kept node. -/
  length_records :
    records.length = (keptNodes (preorder instantiator.maxDepth key seed 1 0 root)).length
  /-- The `n`-th kept node gives the `n`-th record. -/
  record : ∀ n item,
    (keptNodes (preorder instantiator.maxDepth key seed 1 0 root))[n]? = some item → ∃ id,
      ids.nth? n = some id ∧ records[n]? = some
        { runtimeId := id
          persistentId := nodeId key n
          name := item.node.name
          parentPersistentId := some item.parent
          tags := item.node.tags
          components := (instantiator.decoders.decodeEntries (nodeId key n)
            (item.node.components.filter fun (kind, _) => kind ≠ PersistentId.kind)).components }
  /-- Every visit is logged at its place. -/
  log_eq : log = (preorder instantiator.maxDepth key seed 1 0 root).flatMap
    (Visit.diagnostics instantiator prefabId key)

/-- A walk from a root that the ids suffice for follows the pre-order. -/
theorem followsPreorder_walk (self : Instantiator) (prefabId key seed : String)
    (ids : IdAllocator) (root : Template) {walk : Walk}
    (hwalk : self.walk prefabId key ids 0 [{ node := root, parent := seed, level := 1 }] = walk)
    (hcomplete : walk.complete = true) :
    FollowsPreorder self prefabId key seed ids root walk.records walk.diagnostics := by
  subst hwalk
  have hvisits : preorderPending self.maxDepth key 0 [{ node := root, parent := seed, level := 1 }]
      = preorder self.maxDepth key seed 1 0 root := List.append_nil _
  rw [walk_eq_stamp, hvisits] at hcomplete ⊢
  obtain ⟨hlength, hrecords⟩ := records_stamp self prefabId key _ ids 0
    (numbered_preorder self.maxDepth key seed 1 0 root) hcomplete
  refine ⟨hlength, fun n item hitem => ?_, diagnostics_stamp self prefabId key _ ids hcomplete⟩
  obtain ⟨id, hid, hrecord⟩ := hrecords n item hitem
  rw [Nat.zero_add] at hrecord
  exact ⟨id, hid, hrecord⟩

/-- The key of an instance and the number of keys drawn after it. -/
def Instantiator.chosenKey (supply : KeySupply) (request : InstanceRequest) (drawn : Nat) :
    String × Nat :=
  match usableKey request.instanceUuid with
  | some key => (key, drawn)
  | none => (supply drawn, drawn + 1)

/-- Without a patch a template stays as it is. -/
theorem Instantiator.patchedRoot_of_overridePatch_eq_none {request : InstanceRequest}
    (h : request.overridePatch = none) (root : Template) :
    Instantiator.patchedRoot root request = (root, []) := by
  rw [patchedRoot, h]

/-- An attempt at a registered prefab is a walk over its patched template. -/
theorem instantiate_of_get? {self : Instantiator} {request : InstanceRequest}
    {definition : Definition} (hget : self.prefabs.get? request.prefabId = some definition)
    (supply : KeySupply) (ids : IdAllocator) (drawn : Nat) :
    self.instantiate supply request ids drawn =
      let walk := self.walk definition.id (Instantiator.chosenKey supply request drawn).1 ids 0
        [{ node := (Instantiator.patchedRoot definition.root request).1
           parent := request.seedPersistentId
           level := 1 }]
      { result :=
          if walk.complete then .ok walk.records
          else .error (.idsExhausted definition.id request.seedPersistentId)
        diagnostics := (Instantiator.patchedRoot definition.root request).2 ++ walk.diagnostics
        ids := walk.ids
        drawn := (Instantiator.chosenKey supply request drawn).2 } := by
  unfold Instantiator.instantiate
  rw [hget]
  rfl

/-- What is behind an instance that is made. -/
theorem instantiate_eq_ok (self : Instantiator) (supply : KeySupply) (request : InstanceRequest)
    (ids : IdAllocator) (drawn : Nat) {records : List Record}
    (hok : (self.instantiate supply request ids drawn).result = .ok records) :
    ∃ definition root patching log,
      self.prefabs.get? request.prefabId = some definition ∧
        Instantiator.patchedRoot definition.root request = (root, patching) ∧
        (self.instantiate supply request ids drawn).diagnostics = patching ++ log ∧
        (self.instantiate supply request ids drawn).drawn =
          (Instantiator.chosenKey supply request drawn).2 ∧
        FollowsPreorder self definition.id (Instantiator.chosenKey supply request drawn).1
          request.seedPersistentId ids root records log := by
  unfold Instantiator.instantiate at hok ⊢
  cases hget : self.prefabs.get? request.prefabId with
  | none => simp [hget] at hok
  | some definition =>
    rcases hroot : Instantiator.patchedRoot definition.root request with ⟨root, patching⟩
    simp only [hget, hroot] at hok ⊢
    split_ifs at hok with hcomplete
    obtain rfl := Except.ok.inj hok
    exact ⟨definition, root, patching, _, rfl, hroot, rfl, rfl,
      followsPreorder_walk self definition.id _ _ ids root rfl hcomplete⟩

/-- An instance under an authored key has the records and the log of the pre-order walk of its
patched template, after what patching reports. -/
theorem instantiate_preorder (self : Instantiator) (supply : KeySupply) (request : InstanceRequest)
    (ids : IdAllocator) (drawn : Nat) {key : String} {records : List Record}
    (hkey : request.instanceUuid = some key) (hne : key ≠ "")
    (hok : (self.instantiate supply request ids drawn).result = .ok records) :
    ∃ definition root patching log,
      self.prefabs.get? request.prefabId = some definition ∧
        Instantiator.patchedRoot definition.root request = (root, patching) ∧
        (self.instantiate supply request ids drawn).diagnostics = patching ++ log ∧
        FollowsPreorder self definition.id key request.seedPersistentId ids root records log := by
  obtain ⟨definition, root, patching, log, hget, hroot, hlog, -, hfollows⟩ :=
    instantiate_eq_ok self supply request ids drawn hok
  have hchosen : Instantiator.chosenKey supply request drawn = (key, drawn) := by
    simp [Instantiator.chosenKey, usableKey, hkey, hne]
  rw [hchosen] at hfollows
  exact ⟨definition, root, patching, log, hget, hroot, hlog, hfollows⟩

/-- A lamp, walked to two levels : the socket is an instance of its own and the plug is too deep. -/
def lamp : Instantiator where
  prefabs := ⟨[("lamp", .ofRoot "lamp"
    { name := "lamp"
      children :=
        [{ name := "bulb", tags := ["hot"] },
          { name := "socket", components := [(PrefabInstance.kind, .null)] },
          { name := "cord", children := [.named "plug"] }] })]⟩
  decoders := .empty
  maxDepth := 2

/-- The desk's lamp, under the key `a-0`. -/
def deskLamp : InstanceRequest where
  prefabId := "lamp"
  seedPersistentId := "desk"
  instanceUuid := some "a-0"

/-- The record of a node of the lamp. -/
def lampRecord (id : UInt64) (number : Nat) (name parent : String) (tags : List String) :
    Record where
  runtimeId := ⟨id⟩
  persistentId := nodeId "a-0" number
  name := name
  parentPersistentId := some parent
  tags := tags
  components := []

theorem instantiate_preorder_lamp :
    ∃ definition root patching log,
      lamp.prefabs.get? "lamp" = some definition ∧
        Instantiator.patchedRoot definition.root deskLamp = (root, patching) ∧
        (lamp.instantiate toString deskLamp (.startingAt 7) 0).diagnostics = patching ++ log ∧
        FollowsPreorder lamp definition.id "a-0" "desk" (.startingAt 7) root
          [lampRecord 7 0 "lamp" "desk" [], lampRecord 8 1 "bulb" "a-0-0" ["hot"],
            lampRecord 9 2 "cord" "a-0-0" []] log := by
  refine instantiate_preorder lamp toString deskLamp (.startingAt 7) 0 rfl (by decide) ?_
  simp only [Instantiator.instantiate, walk_eq_stamp]
  rfl

end SceneLoad
