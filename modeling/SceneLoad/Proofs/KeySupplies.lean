import SceneLoad.Proofs.Seeds

/-!
# Passes with different supplies of keys

Keys are drawn for entities without an id and for instances without a key, and go into persistent
ids. Nothing else comes of them : two passes over a document that differ in the supply go through
the same turns (`reached_alike`), and their records differ in persistent ids at most (`run_alike`),
and in these only where a key was drawn (`load_supplies`).

Persistent ids decide one more thing, whether an id is reported as being in use. `idClaims` lists
the ids that come up in a turn and tells the drawn ones from the others. The ids that are not drawn
are the same in both passes. So if no drawn id is like another one (`Apart`), an id that comes up is
in use in both passes or in neither (`Parallel`), and the logs agree in codes and components
(`gist_run`).
-/

namespace SceneLoad

/-- The record without its persistent ids. -/
def Record.anonymous (record : Record) : Record :=
  { record with persistentId := "", parentPersistentId := none }

/-- What a report is about, whichever entity it names. -/
def Diagnostic.gist (diagnostic : Diagnostic) : DiagnosticCode × Option String :=
  (diagnostic.code, diagnostic.component)

/-- Whichever entity has the components, the same is said of them. -/
theorem DecoderRegistry.gist_decodeEntries (registry : DecoderRegistry) (entity entity' : String)
    (entries : Object) :
    (registry.decodeEntries entity entries).diagnostics.map Diagnostic.gist =
      (registry.decodeEntries entity' entries).diagnostics.map Diagnostic.gist := by
  simp only [decodeEntries, List.map_flatMap, List.map_map]
  rfl

/-! ## Instances -/

/-- Two walks that differ in persistent ids at most. -/
abbrev Walk.Alike (left right : Walk) : Prop :=
  left.Related
    (fun records records' => records.map Record.anonymous = records'.map Record.anonymous)
    (fun log log' => log.map Diagnostic.gist = log'.map Diagnostic.gist) right

/-- Two pending nodes that differ in their parents at most. -/
def PendingNode.Alike (left right : PendingNode) : Prop :=
  left.node = right.node ∧ left.level = right.level

theorem PendingNode.alike_childrenOf (parent parent' : String) (level : Nat) (node : Template) :
    List.Forall₂ PendingNode.Alike (childrenOf parent level node)
      (childrenOf parent' level node) := by
  unfold childrenOf
  rw [List.forall₂_map_left_iff, List.forall₂_map_right_iff]
  exact List.forall₂_same.2 fun child _ => ⟨rfl, rfl⟩

/-- A subtree is left out whatever its parent is called. -/
theorem pruned?_alike {item item' : PendingNode} (h : item.Alike item') (prefabId : String)
    (maxDepth : Nat) :
    (Instantiator.pruned? prefabId maxDepth item).map Diagnostic.gist =
      (Instantiator.pruned? prefabId maxDepth item').map Diagnostic.gist := by
  obtain ⟨hnode, hlevel⟩ := h
  unfold Instantiator.pruned?
  rw [hnode, hlevel]
  split_ifs <;> rfl

/-- Neither the key nor the parents matter to what a walk does. -/
theorem walk_alike (self : Instantiator) (prefabId key key' : String) (ids : IdAllocator)
    (number : Nat) (pending : List PendingNode) : ∀ {pending' : List PendingNode},
      List.Forall₂ PendingNode.Alike pending pending' →
        (self.walk prefabId key ids number pending).Alike
          (self.walk prefabId key' ids number pending') := by
  -- The induction is the first loop's own; the second one takes the same step.
  fun_induction Instantiator.walk self prefabId key ids number pending with
  | case1 ids number =>
    rintro _ ⟨⟩
    rw [Instantiator.walk]
    exact ⟨rfl, rfl, rfl, rfl⟩
  | case2 ids number item pending diagnostic hpruned ih =>
    rintro _ (_ | ⟨hitem, hrest⟩)
    have hsame := pruned?_alike hitem prefabId self.maxDepth
    rw [hpruned] at hsame
    obtain ⟨diagnostic', hpruned', hgist⟩ := Option.map_eq_some_iff.1 hsame.symm
    rw [Instantiator.walk, hpruned']
    refine (ih hrest).reporting fun log log' hlog => ?_
    rw [List.map_append, List.map_append, hlog, List.map_singleton, List.map_singleton, hgist]
  | case3 ids number item pending hpruned hids =>
    rintro _ (_ | ⟨hitem, hrest⟩)
    have hsame := pruned?_alike hitem prefabId self.maxDepth
    rw [hpruned] at hsame
    have hpruned' := Option.map_eq_none_iff.1 hsame.symm
    rw [Instantiator.walk, hpruned', hids]
    exact ⟨rfl, rfl, rfl, rfl⟩
  | case4 ids number item pending hpruned id next hids persistentId record diagnostics hrecord
      children =>
    rename_i ih
    rintro _ (_ | ⟨hitem, hrest⟩)
    have hsame := pruned?_alike hitem prefabId self.maxDepth
    rw [hpruned] at hsame
    have hpruned' := Option.map_eq_none_iff.1 hsame.symm
    have hchildren := PendingNode.alike_childrenOf persistentId (nodeId key' number) item.level
      item.node
    have hafter := ih (List.rel_append hchildren hrest)
    obtain ⟨rfl, rfl⟩ := Prod.mk.inj hrecord
    rw [Instantiator.walk, hpruned', hids]
    dsimp only
    rw [← hitem.1, ← hitem.2]
    refine (hafter.recording fun records records' hrecords => ?_).reporting fun log log' hlog => ?_
    · exact congrArg (_ :: ·) hrecords
    · rw [List.map_append, List.map_append, hlog]
      exact congrArg (· ++ _) (self.decoders.gist_decodeEntries _ _ _)

/-- What an attempt comes to, apart from persistent ids. -/
def Instantiator.verdict :
    Except InstanceError (List Record) → Except DiagnosticCode (List Record)
  | .ok records => .ok (records.map Record.anonymous)
  | .error error => .error error.code

/-- The ids suffice for both walks or for neither. -/
theorem Walk.Alike.verdict {left right : Walk} (h : left.Alike right)
    (prefabId seed seed' : String) :
    Instantiator.verdict
        (if left.complete then .ok left.records else .error (.idsExhausted prefabId seed)) =
      Instantiator.verdict
        (if right.complete then .ok right.records else .error (.idsExhausted prefabId seed')) := by
  rw [h.complete]
  split_ifs
  · exact congrArg Except.ok h.records
  · rfl

/-- Two attempts that differ in persistent ids at most. -/
structure InstanceOutcome.Alike (left right : InstanceOutcome) : Prop where
  verdict : Instantiator.verdict left.result = Instantiator.verdict right.result
  diagnostics : left.diagnostics.map Diagnostic.gist = right.diagnostics.map Diagnostic.gist
  ids : left.ids = right.ids
  drawn : left.drawn = right.drawn

/-- Both attempts make an instance, or both fail for the same reason. -/
theorem InstanceOutcome.Alike.cases {left right : InstanceOutcome} (h : left.Alike right) :
    (∃ records records', left.result = .ok records ∧ right.result = .ok records' ∧
        records.map Record.anonymous = records'.map Record.anonymous) ∨
      ∃ error error', left.result = .error error ∧ right.result = .error error' ∧
        error.diagnostic.gist = error'.diagnostic.gist := by
  have hverdict := h.verdict
  cases hleft : left.result with
  | ok records =>
    cases hright : right.result with
    | ok records' =>
      rw [hleft, hright] at hverdict
      exact .inl ⟨records, records', rfl, rfl, Except.ok.inj hverdict⟩
    | error error' =>
      rw [hleft, hright] at hverdict
      cases hverdict
  | error error =>
    cases hright : right.result with
    | ok records' =>
      rw [hleft, hright] at hverdict
      cases hverdict
    | error error' =>
      rw [hleft, hright] at hverdict
      have hcode : error.code = error'.code := Except.error.inj hverdict
      exact .inr ⟨error, error', rfl, rfl, congrArg (·, none) hcode⟩

/-- A template is patched in the same way whoever asks for it. -/
theorem patchedRoot_alike (root : Template) (request : InstanceRequest) (seed : String) :
    (Instantiator.patchedRoot root { request with seedPersistentId := seed }).1 =
        (Instantiator.patchedRoot root request).1 ∧
      (Instantiator.patchedRoot root { request with seedPersistentId := seed }).2.map
          Diagnostic.gist =
        (Instantiator.patchedRoot root request).2.map Diagnostic.gist := by
  unfold Instantiator.patchedRoot
  dsimp only
  split
  · exact ⟨rfl, rfl⟩
  · split <;> exact ⟨rfl, rfl⟩

/-- Neither the supply nor the seed matters to what an attempt comes to. -/
theorem instantiate_alike (self : Instantiator) (supply supply' : KeySupply)
    (request : InstanceRequest) (seed : String) (ids : IdAllocator) (drawn : Nat) :
    (self.instantiate supply request ids drawn).Alike
      (self.instantiate supply' { request with seedPersistentId := seed } ids drawn) := by
  cases hget : self.prefabs.get? request.prefabId with
  | none =>
    unfold Instantiator.instantiate
    rw [hget]
    exact ⟨rfl, rfl, rfl, rfl⟩
  | some definition =>
    have hget' : self.prefabs.get?
        ({ request with seedPersistentId := seed } : InstanceRequest).prefabId =
          some definition := hget
    have hdrawn : (Instantiator.chosenKey supply request drawn).2 =
        (Instantiator.chosenKey supply' request drawn).2 := by
      unfold Instantiator.chosenKey
      split <;> rfl
    have hroot : PendingNode.Alike
        ⟨(Instantiator.patchedRoot definition.root request).1, request.seedPersistentId, 1⟩
        ⟨(Instantiator.patchedRoot definition.root request).1, seed, 1⟩ := ⟨rfl, rfl⟩
    have hwalk := walk_alike self definition.id (Instantiator.chosenKey supply request drawn).1
      (Instantiator.chosenKey supply' request drawn).1 ids 0 _ (.cons hroot .nil)
    obtain ⟨hpatched, hpatching⟩ := patchedRoot_alike definition.root request seed
    rw [instantiate_of_get? hget, instantiate_of_get? hget', hpatched]
    refine ⟨?_, ?_, hwalk.ids, hdrawn⟩
    · exact hwalk.verdict definition.id request.seedPersistentId seed
    · dsimp only
      rw [List.map_append, List.map_append, hpatching]
      exact congrArg _ hwalk.diagnostics

namespace Loader

/-! ## Turns -/

/-- Two states that differ in the persistent ids in use at most. -/
structure Alike (left right : PassState) : Prop where
  ids : left.ids = right.ids
  drawn : left.drawn = right.drawn
  instanceKeys : left.instanceKeys = right.instanceKeys

/-- Two outputs whose records differ in persistent ids at most. -/
structure AlikeOutput (left right : PassOutput) : Prop where
  records : left.records.map Record.anonymous = right.records.map Record.anonymous
  instantiated : left.instantiated = right.instantiated
  skipped : left.skipped.length = right.skipped.length

theorem AlikeOutput.append {left right left' right' : PassOutput} (h : AlikeOutput left right)
    (h' : AlikeOutput left' right') : AlikeOutput (left ++ left') (right ++ right') := by
  refine ⟨?_, ?_, ?_⟩
  · rw [PassOutput.records_append, PassOutput.records_append, List.map_append, List.map_append,
      h.records, h'.records]
  · rw [PassOutput.instantiated_append, PassOutput.instantiated_append, h.instantiated,
      h'.instantiated]
  · rw [PassOutput.skipped_append, PassOutput.skipped_append, List.length_append,
      List.length_append, h.skipped, h'.skipped]

/-- A key is claimed or given up whoever asks for the instance. -/
theorem claimKey_alike (request : InstanceRequest) (seed : String) (used : List String) :
    (claimKey { request with seedPersistentId := seed } used).1 =
        { (claimKey request used).1 with seedPersistentId := seed } ∧
      (claimKey { request with seedPersistentId := seed } used).2.1 =
        (claimKey request used).2.1 ∧
      (claimKey { request with seedPersistentId := seed } used).2.2.map Diagnostic.gist =
        (claimKey request used).2.2.map Diagnostic.gist := by
  unfold claimKey
  dsimp only
  split
  · exact ⟨rfl, rfl, rfl⟩
  · split_ifs <;> exact ⟨rfl, rfl, rfl⟩

variable {self : Loader} {prefabs : PrefabRegistry} {supply supply' : KeySupply}
  {left right left' right' : PassState} {entity : Entity} {marker : PrefabInstance}
  {output output' : PassOutput}

theorem outcome_alike (self : Loader) (prefabs : PrefabRegistry) (supply supply' : KeySupply)
    (h : Alike left right) (marker : PrefabInstance) (seed seed' : String) :
    (self.outcome prefabs supply left marker seed).Alike
      (self.outcome prefabs supply' right marker seed') := by
  obtain ⟨hrequest, -, -⟩ := claimKey_alike (.ofMarker marker seed) seed' left.instanceKeys
  have halike := instantiate_alike
    { prefabs, decoders := self.decoders, maxDepth := self.config.maxPrefabDepth } supply supply'
    (claimKey (.ofMarker marker seed) left.instanceKeys).1 seed' left.ids left.drawn
  rw [← hrequest, h.ids, h.drawn, h.instanceKeys] at halike
  unfold outcome
  rw [h.ids, h.drawn, h.instanceKeys]
  exact halike

/-- From states that are alike, instances are made alike. -/
theorem expand_alike (self : Loader) (prefabs : PrefabRegistry) (supply supply' : KeySupply)
    (h : Alike left right) (marker : PrefabInstance) (seed seed' : String) :
    Alike (self.expand prefabs supply left marker seed).1
        (self.expand prefabs supply' right marker seed').1 ∧
      AlikeOutput (self.expand prefabs supply left marker seed).2
        (self.expand prefabs supply' right marker seed').2 := by
  have halike := outcome_alike self prefabs supply supply' h marker seed seed'
  obtain ⟨-, hkeys, -⟩ := claimKey_alike (.ofMarker marker seed) seed' left.instanceKeys
  refine ⟨⟨?_, ?_, ?_⟩, ?_⟩
  · rw [ids_expand, ids_expand, halike.ids]
  · rw [drawn_expand, drawn_expand, halike.drawn]
  · rw [instanceKeys_expand, instanceKeys_expand, ← h.instanceKeys, ← hkeys]
    rfl
  · rw [output_expand, output_expand]
    rcases halike.cases with
      ⟨records, records', hleft, hright, hsame⟩ | ⟨error, error', hleft, hright, -⟩
    · rw [hleft, hright]
      exact ⟨hsame, rfl, rfl⟩
    · rw [hleft, hright]
      exact ⟨rfl, rfl, rfl⟩

theorem drawn_resolveId (self : Loader) (supply supply' : KeySupply) (entity : Entity)
    (drawn : Nat) :
    (self.resolveId supply entity drawn).2 = (self.resolveId supply' entity drawn).2 := by
  unfold resolveId
  split <;> rfl

/-- An entity enters both passes, with records that are alike, or neither. -/
theorem enter_alike (self : Loader) (supply supply' : KeySupply) (h : Alike left right)
    (entity : Entity) :
    self.enter supply left entity = none ∧ self.enter supply' right entity = none ∨
      ∃ left' right' own own', self.enter supply left entity = some (left', own) ∧
        self.enter supply' right entity = some (right', own') ∧ Alike left' right' ∧
        own.map Record.anonymous = own'.map Record.anonymous := by
  have hdrawn : (self.identified supply left entity).drawn =
      (self.identified supply' right entity).drawn := by
    show (self.resolveId supply entity left.drawn).2 =
      (self.resolveId supply' entity right.drawn).2
    rw [h.drawn, drawn_resolveId self supply supply']
  unfold enter
  rw [h.ids]
  split_ifs
  · cases right.ids.allocate with
    | none => exact .inl ⟨rfl, rfl⟩
    | some next => exact .inr ⟨_, _, _, _, rfl, rfl, ⟨rfl, hdrawn, h.instanceKeys⟩, rfl⟩
  · exact .inr ⟨_, _, _, _, rfl, rfl, ⟨h.ids, hdrawn, h.instanceKeys⟩, rfl⟩

/-- From states that are alike, a turn ends both passes or leads to states that are alike. -/
theorem step_alike (self : Loader) (prefabs : PrefabRegistry) (supply supply' : KeySupply)
    (h : Alike left right) (entity : Entity) :
    (∃ output output', self.step prefabs supply left entity = .stop output ∧
        self.step prefabs supply' right entity = .stop output' ∧ AlikeOutput output output') ∨
      ∃ left' right' output output', self.step prefabs supply left entity = .next left' output ∧
        self.step prefabs supply' right entity = .next right' output' ∧ Alike left' right' ∧
        AlikeOutput output output' := by
  rw [step_eq, step_eq]
  rcases enter_alike self supply supply' h entity with
    ⟨hleft, hright⟩ | ⟨left', right', own, own', hleft, hright, hentered, hown⟩
  · rw [hleft, hright]
    exact .inl ⟨_, _, rfl, rfl, rfl, rfl, rfl⟩
  · rw [hleft, hright]
    cases hmarker : self.entityMarker? entity with
    | none => exact .inr ⟨_, _, _, _, rfl, rfl, hentered, hown, rfl, rfl⟩
    | some marker =>
      obtain ⟨hafter, houtput⟩ := expand_alike self prefabs supply supply' hentered marker
        (self.seedId supply left entity) (self.seedId supply' right entity)
      exact .inr ⟨_, _, _, _, rfl, rfl, hafter, .append ⟨hown, rfl, rfl⟩ houtput⟩

/-- Passes with different supplies come to the same, apart from persistent ids. -/
theorem run_alike (self : Loader) (prefabs : PrefabRegistry) (supply supply' : KeySupply) :
    ∀ {left right : PassState} (entities : List Entity), Alike left right →
      AlikeOutput (self.run prefabs supply left entities) (self.run prefabs supply' right entities)
  | _, _, [], _ => ⟨rfl, rfl, rfl⟩
  | left, right, entity :: rest, h => by
    rw [run, run]
    rcases step_alike self prefabs supply supply' h entity with
      ⟨output, output', hleft, hright, houtput⟩ |
        ⟨left', right', output, output', hleft, hright, hafter, houtput⟩
    · rw [hleft, hright]
      exact houtput
    · rw [hleft, hright]
      exact houtput.append (run_alike self prefabs supply supply' rest hafter)

/-- They go through the same entities, in states that are alike. -/
theorem reached_alike (self : Loader) (prefabs : PrefabRegistry) (supply supply' : KeySupply) :
    ∀ {left right : PassState} (entities : List Entity), Alike left right →
      List.Forall₂ (fun turn turn' => turn.2 = turn'.2 ∧ Alike turn.1 turn'.1)
        (self.reached prefabs supply left entities) (self.reached prefabs supply' right entities)
  | _, _, [], _ => .nil
  | left, right, entity :: rest, h => by
    rw [reached, reached]
    refine .cons ⟨rfl, h⟩ ?_
    rcases step_alike self prefabs supply supply' h entity with
      ⟨output, output', hleft, hright, -⟩ |
        ⟨left', right', output, output', hleft, hright, hafter, -⟩
    · rw [hleft, hright]
      exact .nil
    · rw [hleft, hright]
      exact reached_alike self prefabs supply supply' rest hafter

/-! ## Persistent ids -/

/-- An authored id does not depend on the supply. -/
theorem seedId_of_authoredId? (h : (self.authoredId? entity).isSome) :
    self.seedId supply left entity = self.seedId supply' right entity := by
  obtain ⟨id, hid⟩ := Option.isSome_iff_exists.1 h
  unfold seedId resolveId
  rw [hid]

/-- Records of a turn are alike in both passes. -/
theorem records_alike (self : Loader) (prefabs : PrefabRegistry) (supply supply' : KeySupply)
    (h : Alike left right) (entity : Entity) :
    (self.ownRecords supply left entity).map Record.anonymous =
        (self.ownRecords supply' right entity).map Record.anonymous ∧
      (self.instanceRecords prefabs supply left entity).map Record.anonymous =
        (self.instanceRecords prefabs supply' right entity).map Record.anonymous := by
  unfold ownRecords instanceRecords
  rcases enter_alike self supply supply' h entity with
    ⟨hleft, hright⟩ | ⟨left', right', own, own', hleft, hright, hentered, hown⟩
  · rw [hleft, hright]
    exact ⟨rfl, rfl⟩
  · rw [hleft, hright]
    refine ⟨hown, ?_⟩
    cases self.entityMarker? entity with
    | none => rfl
    | some marker => exact (expand_alike self prefabs supply supply' hentered marker _ _).2.records

theorem length_of_map_anonymous {records records' : List Record}
    (h : records.map Record.anonymous = records'.map Record.anonymous) :
    records.length = records'.length := by
  rw [← List.length_map Record.anonymous, h, List.length_map]

/-- An entity with an authored id has it on its own record in both passes. -/
theorem ids_ownRecords (h : Alike left right) (hid : (self.authoredId? entity).isSome) :
    (self.ownRecords supply left entity).map Record.persistentId =
      (self.ownRecords supply' right entity).map Record.persistentId := by
  rcases enter_alike self supply supply' h entity with
    ⟨hleft, hright⟩ | ⟨left', right', own, own', hleft, hright, -, -⟩
  · rw [ownRecords, ownRecords, hleft, hright]
  · rw [map_persistentId_ownRecords (hleft ▸ rfl), map_persistentId_ownRecords (hright ▸ rfl),
      @seedId_of_authoredId? self supply supply' left right entity hid]

/-- An instance with a key of its own is named after it. -/
theorem ids_instanceRecords {state : PassState} {key : String}
    (hmarker : self.entityMarker? entity = some marker)
    (hkey : usableKey marker.instanceUuid = some key) (hnew : key ∉ state.instanceKeys) :
    (self.instanceRecords prefabs supply state entity).map Record.persistentId =
      (List.range (self.instanceRecords prefabs supply state entity).length).map
        (nodeId key) := by
  unfold instanceRecords
  cases henter : self.enter supply state entity with
  | none => rfl
  | some entered =>
    obtain ⟨entered, own⟩ := entered
    rw [hmarker]
    dsimp only
    rcases records_expand self prefabs supply entered marker (self.seedId supply state entity) with
      hnone | hok
    · rw [hnone]
      rfl
    · obtain ⟨definition, root, patching, log, -, -, -, -, hfollows⟩ :=
        instantiate_eq_ok _ _ _ _ _ hok
      have hids := hfollows.map_persistentId
      have hchosen : (Instantiator.chosenKey supply
          (claimKey (.ofMarker marker (self.seedId supply state entity)) entered.instanceKeys).1
            entered.drawn).1 = key := by
        rw [instanceKeys_of_enter henter]
        simp [claimKey, Instantiator.chosenKey, InstanceRequest.ofMarker, hkey, hnew]
      rwa [hchosen] at hids

/-- A turn finds the state after the entities before it. -/
theorem stateAfter_of_getElem?_reached : ∀ {state : PassState} {entities : List Entity} {n : Nat}
    {turn : PassState × Entity}, (self.reached prefabs supply state entities)[n]? = some turn →
      self.stateAfter prefabs supply state (entities.take n) = some turn.1
  | state, [], n, turn, h => by simp [reached] at h
  | state, entity :: rest, 0, turn, h => by
    rw [reached] at h
    obtain rfl := Option.some.inj h
    rfl
  | state, entity :: rest, n + 1, turn, h => by
    rw [reached, List.getElem?_cons_succ] at h
    rw [List.take_succ_cons, stateAfter]
    cases hstep : self.step prefabs supply state entity with
    | stop output => simp [hstep] at h
    | next state' output =>
      rw [hstep] at h
      exact stateAfter_of_getElem?_reached h

/-- A key that no earlier entity has is not in use. -/
theorem notMem_instanceKeys_of_reached {ids : IdAllocator} {entities : List Entity} {n : Nat}
    {turn : PassState × Entity} {key : String}
    (hturn : (self.reached prefabs supply { ids } entities)[n]? = some turn)
    (hkey : ∀ earlier ∈ entities.take n, ¬self.AuthoredKey earlier key) :
    key ∉ turn.1.instanceKeys := by
  intro hmem
  rcases authoredKey_of_stateAfter (stateAfter_of_getElem?_reached hturn) key hmem with
    hmem | ⟨earlier, hearlier, hauthored⟩
  · exact List.not_mem_nil hmem
  · exact hkey earlier hearlier hauthored

/-! ## Ids in use -/

/-- An id that comes up in a turn. -/
structure IdClaim where
  id : String
  /-- Whether it is a drawn key, or is built from one. -/
  drawn : Bool

/-- The ids of the records of an instance. -/
def claimsOf (drawn : Bool) (records : List Record) : List IdClaim :=
  records.map fun record => { id := record.persistentId, drawn }

/-- Whether a key is drawn for an instance : its marker has none, or one that is in use. -/
def drawsKey (state : PassState) (marker : PrefabInstance) : Bool :=
  match usableKey marker.instanceUuid with
  | none => true
  | some key => key ∈ state.instanceKeys

theorem drawsKey_alike (h : Alike left right) : drawsKey left = drawsKey right := by
  funext marker
  unfold drawsKey
  rw [h.instanceKeys]

/-- The ids that come up in a turn : the entity's, and those of its instance. -/
def idClaims (self : Loader) (prefabs : PrefabRegistry) (supply : KeySupply)
    (turn : PassState × Entity) : List IdClaim :=
  { id := self.seedId supply turn.1 turn.2, drawn := (self.authoredId? turn.2).isNone } ::
    claimsOf ((self.entityMarker? turn.2).any (drawsKey turn.1))
      (self.instanceRecords prefabs supply turn.1 turn.2)

/-- No id with a drawn key in it is like another one. -/
def Apart (claims : List IdClaim) : Prop :=
  claims.Pairwise fun claim claim' => claim.drawn ∨ claim'.drawn → claim.id ≠ claim'.id

/-- Two claims that come up at the same place of two passes, with different ids in use. The ids are
the same unless they are drawn, and both are in use or neither. -/
structure Parallel (seen seen' : List String) (claim claim' : IdClaim) : Prop where
  drawn : claim.drawn = claim'.drawn
  id : claim.drawn = false → claim.id = claim'.id
  seen : claim.id ∈ seen ↔ claim'.id ∈ seen'

theorem Parallel.after {seen seen' : List String} {first first' later later' : IdClaim}
    (hfirst : Parallel seen seen' first first') (hlater : Parallel seen seen' later later')
    (hapart : first.drawn ∨ later.drawn → first.id ≠ later.id)
    (hapart' : first'.drawn ∨ later'.drawn → first'.id ≠ later'.id) :
    Parallel (claim first.id seen) (claim first'.id seen') later later' := by
  refine ⟨hlater.drawn, hlater.id, ?_⟩
  rw [mem_claim, mem_claim, hlater.seen]
  by_cases hdrawn : first.drawn ∨ later.drawn
  · have hne := hapart hdrawn
    have hne' := hapart' (by rwa [← hfirst.drawn, ← hlater.drawn])
    simp [hne.symm, hne'.symm]
  · rw [not_or, Bool.not_eq_true, Bool.not_eq_true] at hdrawn
    rw [hfirst.id hdrawn.1, hlater.id hdrawn.2]

/-- If drawn ids are like no others, later claims stay parallel when both passes take up one. -/
theorem parallel_claim {seen seen' : List String} {first first' : IdClaim}
    {claims claims' : List IdClaim}
    (h : List.Forall₂ (Parallel seen seen') (first :: claims) (first' :: claims'))
    (hapart : Apart (first :: claims)) (hapart' : Apart (first' :: claims')) :
    List.Forall₂ (Parallel (claim first.id seen) (claim first'.id seen')) claims claims' := by
  obtain ⟨hfirst, hrest⟩ := List.forall₂_cons.1 h
  have hne := (List.pairwise_cons.1 hapart).1
  have hne' := (List.pairwise_cons.1 hapart').1
  clear h hapart hapart'
  induction hrest with
  | nil => exact .nil
  | cons hlater _ ih =>
    refine .cons (hfirst.after hlater (hne _ List.mem_cons_self) (hne' _ List.mem_cons_self)) ?_
    exact ih (fun later hmem => hne later (List.mem_cons_of_mem _ hmem))
      fun later hmem => hne' later (List.mem_cons_of_mem _ hmem)

/-- An entity is reported as having an id that is in use in both passes or in neither. -/
theorem gist_seedDiagnostics
    (h : self.seedId supply left entity ∈ left.seen ↔
      self.seedId supply' right entity ∈ right.seen) :
    (self.seedDiagnostics supply left entity).map Diagnostic.gist =
      (self.seedDiagnostics supply' right entity).map Diagnostic.gist := by
  unfold seedDiagnostics
  dsimp only
  rw [List.map_append, List.map_append, self.decoders.gist_decodeEntries _
    (self.seedId supply' right entity)]
  by_cases hmem : self.seedId supply left entity ∈ left.seen
  · rw [if_pos hmem, if_pos (h.1 hmem)]
    rfl
  · rw [if_neg hmem, if_neg (mt h.2 hmem)]

/-- Records that are claimed one after another are reported at the same places. -/
theorem gist_claimRecords (drawn : Bool) : ∀ {records records' : List Record}
    {seen seen' : List String} {claims claims' : List IdClaim},
    records.length = records'.length →
      List.Forall₂ (Parallel seen seen')
        (claimsOf drawn records ++ claims) (claimsOf drawn records' ++ claims') →
      Apart (claimsOf drawn records ++ claims) → Apart (claimsOf drawn records' ++ claims') →
        (claimRecords seen records).2.map Diagnostic.gist =
            (claimRecords seen' records').2.map Diagnostic.gist ∧
          List.Forall₂ (Parallel (claimRecords seen records).1 (claimRecords seen' records').1)
            claims claims'
  | [], [], _, _, _, _, _, h, _, _ => ⟨rfl, h⟩
  | [], _ :: _, _, _, _, _, hlength, _, _, _ => by simp at hlength
  | _ :: _, [], _, _, _, _, hlength, _, _, _ => by simp at hlength
  | record :: rest, record' :: rest', seen, seen', _, _, hlength, h, hapart, hapart' => by
    have hseen : record.persistentId ∈ seen ↔ record'.persistentId ∈ seen' :=
      (List.forall₂_cons.1 h).1.seen
    have hlength' : rest.length = rest'.length := by simpa using hlength
    obtain ⟨hreports, hparallel⟩ := gist_claimRecords drawn hlength'
      (parallel_claim h hapart hapart') (List.pairwise_cons.1 hapart).2
      (List.pairwise_cons.1 hapart').2
    rw [claimRecords, claimRecords]
    by_cases hmem : record.persistentId ∈ seen
    · simp only [if_pos hmem, if_pos (hseen.1 hmem), List.map_cons]
      exact ⟨congrArg _ hreports, hparallel⟩
    · simp only [if_neg hmem, if_neg (mt hseen.2 hmem)]
      exact ⟨hreports, hparallel⟩

/-- An instance is reported of alike, if the claims of its records are parallel. -/
theorem gist_expand (h : Alike left right) (seed seed' : String) (drawn : Bool)
    {claims claims' : List IdClaim}
    (hparallel : List.Forall₂ (Parallel left.seen right.seen)
      (claimsOf drawn (self.expand prefabs supply left marker seed).2.records ++ claims)
      (claimsOf drawn (self.expand prefabs supply' right marker seed').2.records ++ claims'))
    (hapart : Apart
      (claimsOf drawn (self.expand prefabs supply left marker seed).2.records ++ claims))
    (hapart' : Apart
      (claimsOf drawn (self.expand prefabs supply' right marker seed').2.records ++ claims')) :
    (self.expand prefabs supply left marker seed).2.diagnostics.map Diagnostic.gist =
        (self.expand prefabs supply' right marker seed').2.diagnostics.map Diagnostic.gist ∧
      List.Forall₂ (Parallel (self.expand prefabs supply left marker seed).1.seen
        (self.expand prefabs supply' right marker seed').1.seen) claims claims' := by
  have halike := outcome_alike self prefabs supply supply' h marker seed seed'
  obtain ⟨-, -, hkey⟩ := claimKey_alike (.ofMarker marker seed) seed' left.instanceKeys
  have hkey' : (claimKey (.ofMarker marker seed') right.instanceKeys).2.2.map Diagnostic.gist =
      (claimKey (.ofMarker marker seed) left.instanceKeys).2.2.map Diagnostic.gist := by
    rw [← h.instanceKeys]
    exact hkey
  rw [records_expand_eq, records_expand_eq] at hparallel
  rw [records_expand_eq] at hapart hapart'
  rw [diagnostics_expand, diagnostics_expand, seen_expand, seen_expand]
  simp only [List.map_append, hkey', halike.diagnostics]
  rcases halike.cases with
    ⟨records, records', hleft, hright, hsame⟩ | ⟨error, error', hleft, hright, hcode⟩
  · rw [hleft] at hparallel hapart ⊢
    rw [hright] at hparallel hapart' ⊢
    obtain ⟨hreports, hafter⟩ := gist_claimRecords drawn (length_of_map_anonymous hsame)
      hparallel hapart hapart'
    exact ⟨congrArg _ hreports, hafter⟩
  · rw [hleft] at hparallel ⊢
    rw [hright] at hparallel ⊢
    refine ⟨?_, hparallel⟩
    rw [List.map_singleton, List.map_singleton, hcode]

theorem seen_of_enter {state entered : PassState} {own : List Record}
    (h : self.enter supply state entity = some (entered, own)) :
    entered.seen = claim (self.seedId supply state entity) state.seen := by
  obtain ⟨ids, rfl⟩ := exists_ids_of_enter h
  rfl

theorem gist_of_step_stop (hleft : self.step prefabs supply left entity = .stop output)
    (hright : self.step prefabs supply' right entity = .stop output')
    (h : self.seedId supply left entity ∈ left.seen ↔
      self.seedId supply' right entity ∈ right.seen) :
    output.diagnostics.map Diagnostic.gist = output'.diagnostics.map Diagnostic.gist := by
  obtain ⟨henter, -⟩ := enter_of_step_stop hleft
  obtain ⟨henter', -⟩ := enter_of_step_stop hright
  rw [step_eq, henter] at hleft
  rw [step_eq, henter'] at hright
  obtain rfl := EntityStep.stop.inj hleft
  obtain rfl := EntityStep.stop.inj hright
  dsimp only
  rw [List.map_append, List.map_append, gist_seedDiagnostics h]
  rfl

/-- A turn is reported of alike, if its claims are parallel, and leaves later claims parallel. -/
theorem gist_of_step_next (h : Alike left right)
    (hleft : self.step prefabs supply left entity = .next left' output)
    (hright : self.step prefabs supply' right entity = .next right' output')
    {claims claims' : List IdClaim}
    (hparallel : List.Forall₂ (Parallel left.seen right.seen)
      (self.idClaims prefabs supply (left, entity) ++ claims)
      (self.idClaims prefabs supply' (right, entity) ++ claims'))
    (hapart : Apart (self.idClaims prefabs supply (left, entity) ++ claims))
    (hapart' : Apart (self.idClaims prefabs supply' (right, entity) ++ claims')) :
    output.diagnostics.map Diagnostic.gist = output'.diagnostics.map Diagnostic.gist ∧
      List.Forall₂ (Parallel left'.seen right'.seen) claims claims' := by
  have hseed := gist_seedDiagnostics (List.forall₂_cons.1 hparallel).1.seen
  have hafter := parallel_claim hparallel hapart hapart'
  have hrest := (List.pairwise_cons.1 hapart).2
  have hrest' := (List.pairwise_cons.1 hapart').2
  have hdraws := drawsKey_alike h
  rw [step_eq] at hleft hright
  rcases enter_alike self supply supply' h entity with
    ⟨henter, -⟩ | ⟨entered, entered', own, own', henter, henter', hentered, -⟩
  · simp [henter] at hleft
  · cases hmarker : self.entityMarker? entity with
    | none =>
      simp only [instanceRecords, henter, henter', hmarker, expandMarker, EntityStep.next.injEq]
        at hleft hright hafter
      obtain ⟨rfl, rfl⟩ := hleft
      obtain ⟨rfl, rfl⟩ := hright
      rw [seen_of_enter henter, seen_of_enter henter']
      exact ⟨hseed, hafter⟩
    | some marker =>
      simp only [instanceRecords, henter, henter', hmarker, hdraws, expandMarker,
        EntityStep.next.injEq, ← seen_of_enter henter, ← seen_of_enter henter']
        at hleft hright hafter hrest hrest'
      obtain ⟨rfl, rfl⟩ := hleft
      obtain ⟨rfl, rfl⟩ := hright
      obtain ⟨hgist, hclaims⟩ := gist_expand hentered _ _ _ hafter hrest hrest'
      refine ⟨?_, hclaims⟩
      rw [PassOutput.diagnostics_append, PassOutput.diagnostics_append, List.map_append,
        List.map_append, hseed, hgist]

/-- If no drawn id is like another one, passes with different supplies are reported of alike. -/
theorem gist_run (self : Loader) (prefabs : PrefabRegistry) (supply supply' : KeySupply) :
    ∀ {left right : PassState} (entities : List Entity), Alike left right →
      List.Forall₂ (Parallel left.seen right.seen)
        ((self.reached prefabs supply left entities).flatMap (self.idClaims prefabs supply))
        ((self.reached prefabs supply' right entities).flatMap (self.idClaims prefabs supply')) →
      Apart ((self.reached prefabs supply left entities).flatMap
        (self.idClaims prefabs supply)) →
      Apart ((self.reached prefabs supply' right entities).flatMap
        (self.idClaims prefabs supply')) →
        (self.run prefabs supply left entities).diagnostics.map Diagnostic.gist =
          (self.run prefabs supply' right entities).diagnostics.map Diagnostic.gist
  | _, _, [], _, _, _, _ => rfl
  | left, right, entity :: rest, h, hparallel, hapart, hapart' => by
    rw [reached, reached, List.flatMap_cons, List.flatMap_cons] at hparallel
    rw [reached, List.flatMap_cons] at hapart hapart'
    rw [run, run]
    rcases step_alike self prefabs supply supply' h entity with
      ⟨output, output', hleft, hright, -⟩ |
        ⟨left', right', output, output', hleft, hright, hafter, -⟩
    · rw [hleft, hright]
      exact gist_of_step_stop hleft hright (List.forall₂_cons.1 hparallel).1.seen
    · rw [hleft, hright] at hparallel ⊢
      rw [hleft] at hapart
      rw [hright] at hapart'
      obtain ⟨hgist, hclaims⟩ := gist_of_step_next h hleft hright hparallel hapart hapart'
      have hlater := gist_run self prefabs supply supply' rest hafter hclaims
        (List.pairwise_append.1 hapart).2.1 (List.pairwise_append.1 hapart').2.1
      rw [PassOutput.diagnostics_append, PassOutput.diagnostics_append, List.map_append,
        List.map_append, hgist, hlater]

/-! ## Loads -/

theorem parallel_claimsOf (drawn : Bool) : ∀ {records records' : List Record},
    records.length = records'.length →
      (drawn = false →
        records.map Record.persistentId = records'.map Record.persistentId) →
      List.Forall₂ (Parallel [] []) (claimsOf drawn records) (claimsOf drawn records')
  | [], [], _, _ => .nil
  | [], _ :: _, hlength, _ => by simp at hlength
  | _ :: _, [], hlength, _ => by simp at hlength
  | record :: rest, record' :: rest', hlength, hids => by
    have hlength' : rest.length = rest'.length := by simpa using hlength
    have hfirst : Parallel [] [] ⟨record.persistentId, drawn⟩ ⟨record'.persistentId, drawn⟩ :=
      ⟨rfl, fun hdrawn => (List.cons.inj (hids hdrawn)).1, by simp⟩
    exact .cons hfirst (parallel_claimsOf drawn hlength' fun hdrawn =>
      (List.cons.inj (hids hdrawn)).2)

/-- What comes up in a turn is parallel, as far as nothing is in use. -/
theorem parallel_idClaims (self : Loader) (prefabs : PrefabRegistry) (supply supply' : KeySupply)
    (h : Alike left right) (entity : Entity) :
    List.Forall₂ (Parallel [] []) (self.idClaims prefabs supply (left, entity))
      (self.idClaims prefabs supply' (right, entity)) := by
  have hlength := length_of_map_anonymous
    (records_alike self prefabs supply supply' h entity).2
  refine .cons ⟨rfl, fun hid => ?_, by simp⟩ ?_
  · have hauthored : (self.authoredId? entity).isNone = false := hid
    exact seedId_of_authoredId? (Option.isNone_eq_false_iff.1 hauthored)
  · dsimp only
    rw [drawsKey_alike h]
    refine parallel_claimsOf _ hlength fun hdrawn => ?_
    cases hmarker : self.entityMarker? entity with
    | none => simp [instanceRecords, hmarker]
    | some marker =>
      rw [hmarker, Option.any_some, drawsKey] at hdrawn
      cases hkey : usableKey marker.instanceUuid with
      | none => simp [hkey] at hdrawn
      | some key =>
        have hnew : key ∉ right.instanceKeys := by simpa [hkey] using hdrawn
        have hnew' : key ∉ left.instanceKeys := h.instanceKeys ▸ hnew
        rw [ids_instanceRecords hmarker hkey hnew, ids_instanceRecords hmarker hkey hnew', hlength]

/-- Loads with different supplies of keys have the same records apart from persistent ids, and these
differ only where a key is drawn. If no id with a drawn key in it is like another one that comes up
in the same load, also the logs agree in codes and components. -/
theorem load_supplies (self : Loader) (document : Document) (ids : IdAllocator)
    (supply supply' : KeySupply) {report report' : Report} {log log' : List Diagnostic}
    {turns turns' : List (PassState × Entity)}
    (hload : self.load document ids supply = (report, log))
    (hload' : self.load document ids supply' = (report', log'))
    (hturns : self.reached document.registry supply { ids } document.entities = turns)
    (hturns' : self.reached document.registry supply' { ids } document.entities = turns') :
    report.records.map Record.anonymous = report'.records.map Record.anonymous ∧
      report.instantiatedSeeds = report'.instantiatedSeeds ∧
      report.skippedSeeds.length = report'.skippedSeeds.length ∧
      report.registeredPrefabs = report'.registeredPrefabs ∧
      turns.map Prod.snd = turns'.map Prod.snd ∧
      report.records = turns.flatMap (self.turnRecords document.registry supply) ∧
      report'.records = turns'.flatMap (self.turnRecords document.registry supply') ∧
      (∀ n turn turn', turns[n]? = some turn → turns'[n]? = some turn' →
        (self.ownRecords supply turn.1 turn.2).map Record.anonymous =
            (self.ownRecords supply' turn'.1 turn'.2).map Record.anonymous ∧
          (self.instanceRecords document.registry supply turn.1 turn.2).map Record.anonymous =
            (self.instanceRecords document.registry supply' turn'.1 turn'.2).map
              Record.anonymous ∧
          ((self.authoredId? turn.2).isSome →
            (self.ownRecords supply turn.1 turn.2).map Record.persistentId =
              (self.ownRecords supply' turn'.1 turn'.2).map Record.persistentId) ∧
          ∀ marker key, self.entityMarker? turn.2 = some marker →
            usableKey marker.instanceUuid = some key →
            (∀ earlier ∈ document.entities.take n, ¬self.AuthoredKey earlier key) →
              (self.instanceRecords document.registry supply turn.1 turn.2).map
                  Record.persistentId =
                (self.instanceRecords document.registry supply' turn'.1 turn'.2).map
                  Record.persistentId) ∧
      (Apart (turns.flatMap (self.idClaims document.registry supply)) →
        Apart (turns'.flatMap (self.idClaims document.registry supply')) →
          log.map Diagnostic.gist = log'.map Diagnostic.gist) := by
  have hstart : Alike { ids } { ids } := ⟨rfl, rfl, rfl⟩
  have houtput := run_alike self document.registry supply supply' document.entities hstart
  have hreached := reached_alike self document.registry supply supply' document.entities hstart
  have hgist := gist_run self document.registry supply supply' document.entities hstart
  have hrecords := @records_run self document.registry supply { ids } document.entities
  have hrecords' := @records_run self document.registry supply' { ids } document.entities
  rw [load_eq] at hload hload'
  obtain ⟨rfl, rfl⟩ := Prod.mk.inj hload
  obtain ⟨rfl, rfl⟩ := Prod.mk.inj hload'
  rw [hturns] at hreached hgist hrecords
  rw [hturns'] at hreached hgist hrecords'
  refine ⟨houtput.records, houtput.instantiated, houtput.skipped, rfl, ?_, hrecords, hrecords',
    ?_, fun hapart hapart' => ?_⟩
  · rw [← List.forall₂_eq_eq_eq, List.forall₂_map_left_iff, List.forall₂_map_right_iff]
    exact hreached.imp fun turn turn' h => h.1
  · rintro n ⟨state, entity⟩ ⟨state', entity'⟩ hturn hturn'
    obtain ⟨rfl, hstate⟩ : entity = entity' ∧ Alike state state' := by
      obtain ⟨hn, heq⟩ := List.getElem?_eq_some_iff.1 hturn
      obtain ⟨hn', heq'⟩ := List.getElem?_eq_some_iff.1 hturn'
      have hpair := hreached.get hn hn'
      rwa [List.get_eq_getElem, List.get_eq_getElem, heq, heq'] at hpair
    obtain ⟨hown, hinstance⟩ :=
      records_alike self document.registry supply supply' hstate entity
    refine ⟨hown, hinstance, ids_ownRecords hstate, fun marker key hmarker hkey hearlier => ?_⟩
    have hnew : key ∉ state.instanceKeys := by
      rw [← hturns] at hturn
      exact notMem_instanceKeys_of_reached hturn hearlier
    have hnew' : key ∉ state'.instanceKeys := hstate.instanceKeys ▸ hnew
    rw [ids_instanceRecords hmarker hkey hnew, ids_instanceRecords hmarker hkey hnew',
      length_of_map_anonymous hinstance]
  · rw [List.map_append, List.map_append]
    refine congrArg _ (hgist (List.rel_flatMap hreached ?_) hapart hapart')
    rintro ⟨state, entity⟩ ⟨state', entity'⟩ ⟨rfl, hstate⟩
    exact parallel_idClaims self document.registry supply supply' hstate entity

/-- The book on the right has a key that is in use, and gets another one with another supply. The
reports are the same. -/
theorem load_supplies_shelf :
    (librarian.load shelf (.startingAt 7) (nodeId "fresh")).1.records.map Record.anonymous =
        (librarian.load shelf (.startingAt 7) (nodeId "other")).1.records.map Record.anonymous ∧
      (librarian.load shelf (.startingAt 7) (nodeId "fresh")).2.map Diagnostic.gist =
        (librarian.load shelf (.startingAt 7) (nodeId "other")).2.map Diagnostic.gist ∧
      (librarian.load shelf (.startingAt 7) (nodeId "fresh")).1.records.map Record.persistentId =
        ["left", "a-0", "a-1", "middle", "a-0-0", "a-0-1", "right", "fresh-0-0", "fresh-0-1"] ∧
      (librarian.load shelf (.startingAt 7) (nodeId "other")).1.records.map Record.persistentId =
        ["left", "a-0", "a-1", "middle", "a-0-0", "a-0-1", "right", "other-0-0", "other-0-1"] := by
  have hsupplies := load_supplies librarian shelf (.startingAt 7) (nodeId "fresh")
    (nodeId "other") Prod.mk.eta.symm Prod.mk.eta.symm rfl rfl
  obtain ⟨hrecords, -, -, -, -, -, -, -, hlog⟩ := hsupplies
  have hapart : Apart ((librarian.reached shelf.registry (nodeId "fresh")
      { ids := .startingAt 7 } shelf.entities).flatMap
        (librarian.idClaims shelf.registry (nodeId "fresh"))) := by
    unfold Apart
    decide +kernel
  have hapart' : Apart ((librarian.reached shelf.registry (nodeId "other")
      { ids := .startingAt 7 } shelf.entities).flatMap
        (librarian.idClaims shelf.registry (nodeId "other"))) := by
    unfold Apart
    decide +kernel
  exact ⟨hrecords, hlog hapart hapart', by decide +kernel, by decide +kernel⟩

end Loader

end SceneLoad
