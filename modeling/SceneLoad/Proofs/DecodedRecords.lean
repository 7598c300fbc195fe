import SceneLoad.Proofs.BadComponents
import SceneLoad.Proofs.Exhaustion
import SceneLoad.Proofs.RemainingIds

/-!
# Components of records

Entities and template nodes have authored components, and a record has decoded ones. In between a
component may be lost, but never without a word : a kind is stored if its payload decodes, and
otherwise there is one report of it, under its own name and the name of the record
(`DecoderRegistry.Accounts`). This is so for the entities of a pass (`Loader.TurnAccounts`) and for
the nodes of an instance, of which the persistent id is left out before (`BuildsFrom`). A node that
is itself marked as an instance makes no record, so neither kind is ever found on an instantiated
one. `Stamps` goes through the visits of a walk and cuts its log accordingly, also that of a walk
which runs out of runtime ids.
-/

namespace SceneLoad

open Visit

namespace DecoderRegistry

/-- The report of an authored component that does not decode. -/
def failure? (registry : DecoderRegistry) (entity : String) (entry : String × Json) :
    Option Diagnostic :=
  match (registry.decode entry.1 entry.2).result with
  | .ok _ => none
  | .error error =>
    some
      { code := error.code
        message := error.message
        entity := some entity
        component := some entry.1 }

/-- The code of such a report tells whether something answers for the kind. -/
def failureCode (registry : DecoderRegistry) (kind : String) : DiagnosticCode :=
  if (registry.decoder? kind).isSome then .malformedComponentPayload else .unknownComponentKind

/-- Decoded components and a log account for the authored components of an entity. -/
structure Accounts (registry : DecoderRegistry) (entity : String) (entries : Object)
    (components : SortedMap String DecodedComponent) (log : List Diagnostic) : Prop where
  ascending : (SortedMap.keys components).Pairwise (· < ·)
  /-- What decodes is stored under its kind, and nothing else is. -/
  stored : ∀ kind decoded, (kind, decoded) ∈ components ↔
    ∃ payload, (kind, payload) ∈ entries ∧ (registry.decode kind payload).result = .ok decoded
  /-- In authored order, each component is spoken of by its decoder, and then by a report of its own
  if it does not decode. -/
  log_eq : log = entries.flatMap fun entry =>
    (registry.decode entry.1 entry.2).reported.map (Diagnostic.within entity) ++
      (registry.failure? entity entry).toList
  code : ∀ entry ∈ entries, ∀ report, registry.failure? entity entry = some report →
    report.code = registry.failureCode entry.1
  /-- No component is lost without a report. -/
  stored_or_reported : ∀ kind payload, (kind, payload) ∈ entries →
    (∃ decoded, (kind, decoded) ∈ components) ∨
      ∃ report ∈ log, report.code = registry.failureCode kind ∧ report.entity = some entity ∧
        report.component = some kind

variable (registry : DecoderRegistry) (entity : String)

theorem failure?_eq (entry : String × Json) :
    registry.failure? entity entry =
      match (registry.decode entry.1 entry.2).result with
      | .ok _ => none
      | .error error => some (error.diagnostic.within entity) := by
  unfold failure?
  split
  · rfl
  · next error herror =>
    rw [DecodeError.diagnostic, kind_of_decode herror]
    rfl

theorem code_of_result {kind : String} {payload : Json} {error : DecodeError}
    (h : (registry.decode kind payload).result = .error error) :
    error.code = registry.failureCode kind := by
  unfold failureCode
  cases hdecoder : registry.decoder? kind with
  | none =>
    rw [decode_of_decoder?_eq_none hdecoder] at h
    obtain rfl := Except.error.inj h
    rfl
  | some decoder =>
    cases hresult : (decoder.decode payload).result with
    | ok value =>
      rw [decode_of_ok hdecoder hresult] at h
      cases h
    | error source =>
      rw [decode_of_error hdecoder hresult] at h
      obtain rfl := Except.error.inj h
      rfl

theorem diagnostics_decodeEntries (entries : Object) :
    (registry.decodeEntries entity entries).diagnostics =
      entries.flatMap fun entry =>
        (registry.decode entry.1 entry.2).reported.map (Diagnostic.within entity) ++
          (registry.failure? entity entry).toList := by
  unfold decodeEntries
  dsimp only
  rw [List.flatMap_map]
  refine List.flatMap_congr fun entry _ => ?_
  rw [DecodeOutcome.diagnostics, List.map_append, failure?_eq]
  cases (registry.decode entry.1 entry.2).result <;> rfl

theorem pairwise_decodeEntries (entries : Object) :
    (SortedMap.keys (registry.decodeEntries entity entries).components).Pairwise (· < ·) := by
  rw [components_decodeEntries]
  exact List.foldlRecOn (motive := fun components : SortedMap String DecodedComponent =>
    (SortedMap.keys components).Pairwise (· < ·)) entries _ List.Pairwise.nil
      fun components hcomponents entry _ => pairwise_store _ hcomponents

/-- What is decoded of components with different kinds accounts for them. -/
theorem accounts_decodeEntries {entries : Object} (h : (Object.keys entries).Nodup) :
    registry.Accounts entity entries (registry.decodeEntries entity entries).components
      (registry.decodeEntries entity entries).diagnostics := by
  have hascending := pairwise_decodeEntries registry entity entries
  have hstored : ∀ kind decoded,
      (kind, decoded) ∈ (registry.decodeEntries entity entries).components ↔
        ∃ payload, (kind, payload) ∈ entries ∧
          (registry.decode kind payload).result = .ok decoded := by
    intro kind decoded
    have hfind := find?_decodeEntries registry entity kind h
    rw [← lookup_eq_some_iff_mem (hascending.imp Std.ne_of_lt), ← SortedMap.find?, hfind,
      Option.bind_eq_some_iff]
    refine exists_congr fun payload => and_congr (lookup_eq_some_iff_mem h) ?_
    cases (registry.decode kind payload).result <;> simp [Except.toOption]
  have hcode : ∀ entry ∈ entries, ∀ report, registry.failure? entity entry = some report →
      report.code = registry.failureCode entry.1 := by
    intro entry _ report hreport
    unfold failure? at hreport
    split at hreport
    · cases hreport
    · next error herror =>
      obtain rfl := Option.some.inj hreport
      exact code_of_result registry herror
  have hlog := diagnostics_decodeEntries registry entity entries
  refine ⟨hascending, hstored, hlog, hcode, fun kind payload hmem => ?_⟩
  cases hresult : (registry.decode kind payload).result with
  | ok decoded => exact .inl ⟨decoded, (hstored kind decoded).2 ⟨payload, hmem, hresult⟩⟩
  | error error =>
    let report : Diagnostic :=
      { code := error.code
        message := error.message
        entity := some entity
        component := some kind }
    have hreport : registry.failure? entity (kind, payload) = some report := by
      rw [failure?, hresult]
    refine .inr ⟨report, ?_, code_of_result registry hresult, rfl, rfl⟩
    rw [hlog]
    refine List.mem_flatMap.2 ⟨(kind, payload), hmem, List.mem_append_right _ ?_⟩
    exact Option.mem_toList.2 hreport

end DecoderRegistry

open DecoderRegistry

/-! ## Nodes -/

/-- Records and log of a list of visits. A subtree that is left out is reported and makes no record.
A kept node makes one, with the next number, and its components and log account for the node's, its
persistent id apart. -/
inductive Stamps (self : Instantiator) (prefabId key : String) :
    Nat → List Visit → List Record → List Diagnostic → Prop
  | nil (number : Nat) : Stamps self prefabId key number [] [] []
  | tooDeep {number : Nat} {visits : List Visit} {records : List Record} {log : List Diagnostic}
      (item : PendingNode) (hrest : Stamps self prefabId key number visits records log) :
      Stamps self prefabId key number (.tooDeep item :: visits) records
        (Instantiator.tooDeep prefabId self.maxDepth item :: log)
  | nested {number : Nat} {visits : List Visit} {records : List Record} {log : List Diagnostic}
      (item : PendingNode) (hrest : Stamps self prefabId key number visits records log) :
      Stamps self prefabId key number (.nested item :: visits) records
        (Instantiator.nestedInstance prefabId item :: log)
  | kept {number : Nat} {visits : List Visit} {records : List Record} {log own : List Diagnostic}
      (item : PendingNode) (record : Record) (hid : record.persistentId = nodeId key number)
      (haccounts : self.decoders.Accounts record.persistentId
        (Object.erase PersistentId.kind item.node.components) record.components own)
      (hrest : Stamps self prefabId key (number + 1) visits records log) :
      Stamps self prefabId key number (.kept item number :: visits) (record :: records)
        (own ++ log)

/-- The visits that a walk makes before the ids run out, with its records and its log. -/
theorem stamps_walked (self : Instantiator) (prefabId key : String) :
    ∀ (visits : List Visit) (ids : IdAllocator) (number : Nat), Numbered number visits →
      (∀ item ∈ keptNodes visits, (Object.keys item.node.components).Nodup) →
        Stamps self prefabId key number (walked ids visits)
          (stamp self prefabId key ids visits).records
          (stamp self prefabId key ids visits).diagnostics
  | [], _, number, _, _ => .nil number
  | .tooDeep item :: rest, ids, number, hrest, hkeys => by
    rw [walked_tooDeep]
    exact .tooDeep item (stamps_walked self prefabId key rest ids number hrest hkeys)
  | .nested item :: rest, ids, number, hrest, hkeys => by
    rw [walked_nested]
    exact .nested item (stamps_walked self prefabId key rest ids number hrest hkeys)
  | .kept item number' :: rest, ids, number, ⟨hnumber, hrest⟩, hkeys => by
    subst hnumber
    rw [keptNodes_kept] at hkeys
    obtain ⟨hitem, hkeys⟩ := List.forall_mem_cons.1 hkeys
    rw [stamp, walked]
    cases ids.allocate with
    | none => exact .nil number'
    | some next =>
      have hothers := Object.nodup_keys_erase hitem PersistentId.kind
      exact .kept item _ rfl (accounts_decodeEntries self.decoders (nodeId key number') hothers)
        (stamps_walked self prefabId key rest next.2 (number' + 1) hrest hkeys)

/-- A kept node stands at an address that is not pruned. -/
theorem exists_survives_of_mem_keptNodes {maxDepth level number : Nat} {key parent : String}
    {root : Template} {item : PendingNode}
    (h : item ∈ keptNodes (preorder maxDepth key parent level number root)) :
    ∃ address, root.at? address = some item.node ∧ Survives maxDepth level root address := by
  have hmem : some item.node ∈ (keptAddresses maxDepth level root).map root.at? := by
    rw [at?_keptAddresses maxDepth key parent level number]
    exact List.mem_map.2 ⟨item, h, rfl⟩
  obtain ⟨address, haddress, hnode⟩ := List.mem_map.1 hmem
  exact ⟨address, hnode, mem_keptAddresses.1 haddress⟩

/-- A patched template is well formed if the template and the patch are. -/
theorem wellFormed_patchedRoot {root : Template} {request : InstanceRequest}
    (hroot : root.WellFormed)
    (hpatch : ∀ value, request.overridePatch = some value → value.WellFormed) :
    (Instantiator.patchedRoot root request).1.WellFormed := by
  unfold Instantiator.patchedRoot
  split
  · exact hroot
  · next value hvalue =>
    split
    · next patch hparse =>
      split_ifs
      · exact hroot
      · exact wellFormed_apply hroot (Patch.wellFormed_of_parse (hpatch value hvalue) hparse)
    · exact hroot

/-- A record of an instance holds neither a persistent id nor a marker, if the nodes that are kept
are not marked. -/
theorem Stamps.component?_eq_none {self : Instantiator} {prefabId key : String} {number : Nat}
    {visits : List Visit} {records : List Record} {log : List Diagnostic}
    (h : Stamps self prefabId key number visits records log)
    (hunmarked : ∀ item ∈ keptNodes visits,
      Object.contains item.node.components PrefabInstance.kind = false) :
    ∀ record ∈ records, record.component? PersistentId.kind = none ∧
      record.component? PrefabInstance.kind = none := by
  induction h with
  | nil => simp
  | tooDeep _ _ ih => exact ih hunmarked
  | nested _ _ ih => exact ih hunmarked
  | kept item record _ haccounts _ ih =>
    rw [keptNodes_kept] at hunmarked
    obtain ⟨hitem, hunmarked⟩ := List.forall_mem_cons.1 hunmarked
    refine List.forall_mem_cons.2 ⟨?_, ih hunmarked⟩
    have hnone : ∀ kind,
        (∀ payload, (kind, payload) ∉ Object.erase PersistentId.kind item.node.components) →
          record.component? kind = none := by
      intro kind hnot
      refine List.lookup_eq_none_iff.2 fun (kind', decoded) hmem => ?_
      rw [bne_iff_ne]
      rintro rfl
      obtain ⟨payload, hpayload, -⟩ := (haccounts.stored kind decoded).1 hmem
      exact hnot payload hpayload
    constructor
    · refine hnone _ fun payload hmem => ?_
      simpa [Object.erase] using List.of_mem_filter hmem
    · refine hnone _ fun payload hmem => ?_
      have hkey : PrefabInstance.kind ∈ Object.keys item.node.components :=
        List.mem_map.2 ⟨_, List.mem_of_mem_filter hmem, rfl⟩
      rw [(Object.contains_iff _ _).2 hkey] at hitem
      cases hitem

/-- The visits, records and log of an attempt at an instance, which may be cut short. -/
structure BuildsFrom (instantiator : Instantiator) (prefabId key seed : String) (root : Template)
    (records : List Record) (log : List Diagnostic) (visits : List Visit) : Prop where
  start : visits <+: preorder instantiator.maxDepth key seed 1 0 root
  stamps : Stamps instantiator prefabId key 0 visits records log
  unmarked : ∀ record ∈ records, record.component? PersistentId.kind = none ∧
    record.component? PrefabInstance.kind = none

theorem buildsFrom_walk (self : Instantiator) (prefabId key seed : String) (ids : IdAllocator)
    {root : Template} (hroot : root.WellFormed) {walk : Walk}
    (hwalk : self.walk prefabId key ids 0 [{ node := root, parent := seed, level := 1 }] = walk) :
    ∃ visits, BuildsFrom self prefabId key seed root walk.records walk.diagnostics visits ∧
      (walk.complete = true → visits = preorder self.maxDepth key seed 1 0 root) := by
  have hstamp : walk = stamp self prefabId key ids (preorder self.maxDepth key seed 1 0 root) := by
    rw [← hwalk, walk_eq_stamp, preorderPending, preorderPending, List.append_nil]
  subst hstamp
  have hkeys : ∀ item ∈ keptNodes (preorder self.maxDepth key seed 1 0 root),
      (Object.keys item.node.components).Nodup := by
    rintro ⟨node, parent, level⟩ hmem
    obtain ⟨address, hnode, -⟩ := exists_survives_of_mem_keptNodes hmem
    cases hroot.of_at? hnode with
    | mk hcomponents _ => exact hcomponents.nodup_keys
  have hstart := walked_prefix_self (preorder self.maxDepth key seed 1 0 root) ids
  have hstamps := stamps_walked self prefabId key (preorder self.maxDepth key seed 1 0 root) ids 0
    (numbered_preorder ..) hkeys
  refine ⟨_, ⟨hstart, hstamps, hstamps.component?_eq_none fun item hmem => ?_⟩,
    walked_of_complete self prefabId key _ ids⟩
  obtain ⟨address, hnode, hsurvives⟩ :=
    exists_survives_of_mem_keptNodes ((hstart.sublist.filterMap kept?).subset hmem)
  exact hsurvives.unmarked address List.prefix_rfl _ hnode

/-- An attempt at an instance of a registered prefab builds its records from the patched template,
and says nothing else after what patching reports. -/
theorem instantiate_buildsFrom (self : Instantiator) (supply : KeySupply)
    (request : InstanceRequest) (ids : IdAllocator) (drawn : Nat) {definition : Definition}
    (hget : self.prefabs.get? request.prefabId = some definition)
    (hroot : definition.root.WellFormed)
    (hpatch : ∀ value, request.overridePatch = some value → value.WellFormed)
    {key : String} (hkey : (Instantiator.chosenKey supply request drawn).1 = key)
    {root : Template} {patching : List Diagnostic}
    (hpatched : Instantiator.patchedRoot definition.root request = (root, patching)) :
    ∃ visits log,
      BuildsFrom self definition.id key request.seedPersistentId root
        (self.built supply request ids drawn) log visits ∧
      (self.instantiate supply request ids drawn).diagnostics = patching ++ log ∧
      ∀ records, (self.instantiate supply request ids drawn).result = .ok records →
        records = self.built supply request ids drawn ∧
          visits = preorder self.maxDepth key request.seedPersistentId 1 0 root := by
  have hwellFormed : root.WellFormed := by
    have hwellFormed := wellFormed_patchedRoot hroot hpatch
    rwa [hpatched] at hwellFormed
  obtain ⟨visits, hbuilds, hcomplete⟩ := buildsFrom_walk self definition.id key
    request.seedPersistentId ids hwellFormed rfl
  have hbuilt : BuildsFrom self definition.id key request.seedPersistentId root
      (self.built supply request ids drawn) (self.walk definition.id key ids 0
        [{ node := root, parent := request.seedPersistentId, level := 1 }]).diagnostics visits := by
    rw [Instantiator.built, hget]
    dsimp only
    rw [hkey, hpatched]
    exact hbuilds
  refine ⟨visits, _, hbuilt, ?_, fun records hok =>
    ⟨(Instantiator.built_of_result hok).symm, ?_⟩⟩
  · rw [instantiate_of_get? hget, hkey, hpatched]
  · rw [instantiate_of_get? hget, hkey, hpatched] at hok
    dsimp only at hok
    split_ifs at hok with hwalk
    exact hcomplete hwalk

/-! ## Entities -/

namespace Loader

/-- What is reported of an entity after its components : that there is no id for its record, or what
is said of its instance. -/
def laterReports (self : Loader) (prefabs : PrefabRegistry) (supply : KeySupply)
    (turn : PassState × Entity) : List Diagnostic :=
  match self.enter supply turn.1 turn.2, self.entityMarker? turn.2 with
  | none, _ => [idsExhausted (self.seedId supply turn.1 turn.2)]
  | some _, none => []
  | some (entered, _), some marker =>
    (self.expand prefabs supply entered marker (self.seedId supply turn.1 turn.2)).2.diagnostics

/-- The decoded components of an entity, and the part of its turn's log that is about them. -/
structure TurnAccounts (loader : Loader) (prefabs : PrefabRegistry) (supply : KeySupply)
    (turn : PassState × Entity) (components : SortedMap String DecodedComponent)
    (log : List Diagnostic) : Prop where
  accounts : loader.decoders.Accounts (loader.seedId supply turn.1 turn.2) turn.2.components
    components log
  own : loader.ownRecords supply turn.1 turn.2 =
    if loader.config.emitSeedRecords then
      turn.1.ids.allocate.toList.map fun (runtimeId, _) =>
        seedRecord turn.2 runtimeId (loader.seedId supply turn.1 turn.2) components
    else []
  diagnostics : (loader.turnOutput prefabs supply turn).diagnostics =
    (if loader.seedId supply turn.1 turn.2 ∈ turn.1.seen then
      [reusedId (loader.seedId supply turn.1 turn.2)] else []) ++ log ++
      loader.laterReports prefabs supply turn

variable (self : Loader) (prefabs : PrefabRegistry) (supply : KeySupply)

theorem turnAccounts {turn : PassState × Entity} (h : (Object.keys turn.2.components).Nodup) :
    ∃ components log, self.TurnAccounts prefabs supply turn components log := by
  obtain ⟨state, entity⟩ := turn
  refine ⟨_, _, accounts_decodeEntries self.decoders (self.seedId supply state entity) h, ?_, ?_⟩
  · unfold ownRecords enter
    split_ifs
    · cases state.ids.allocate <;> rfl
    · rfl
  · unfold turnOutput laterReports
    dsimp only
    rw [step_eq, ← seedDiagnostics]
    cases self.enter supply state entity with
    | none => rfl
    | some entered =>
      cases self.entityMarker? entity with
      | none => exact (List.append_nil _).symm
      | some marker => rfl

theorem snd_mem_of_mem_reached {turn : PassState × Entity} :
    ∀ {state : PassState} {entities : List Entity},
      turn ∈ self.reached prefabs supply state entities → turn.2 ∈ entities
  | _, [], hmem => by simp [reached] at hmem
  | state, entity :: rest, hmem => by
    rw [reached] at hmem
    rcases List.mem_cons.1 hmem with rfl | hmem
    · exact List.mem_cons_self
    · split at hmem
      · cases hmem
      · exact List.mem_cons_of_mem _ (snd_mem_of_mem_reached hmem)

/-- For any decoders, the records of a pass and of an instance hold what decodes of the authored
components, and each component that does not is reported, once and in authored order, under its own
kind and the id of the record. -/
theorem records_account_for_components (document : Document) (ids : IdAllocator)
    {turns : List (PassState × Entity)}
    (hturns : self.reached document.registry supply { ids } document.entities = turns)
    (hkeys : ∀ entity ∈ document.entities, (Object.keys entity.components).Nodup) :
    (self.load document ids supply).1.records =
        turns.flatMap (self.turnRecords document.registry supply) ∧
      (self.load document ids supply).2 = (PrefabRegistry.ofJson document.prefabs).2 ++
        turns.flatMap (fun turn => (self.turnOutput document.registry supply turn).diagnostics) ∧
      (∀ turn ∈ turns, ∃ components log,
        self.TurnAccounts document.registry supply turn components log) ∧
      ∀ (instantiator : Instantiator) (request : InstanceRequest) (ids : IdAllocator) (drawn : Nat)
        (definition : Definition) (key : String) (root : Template) (patching : List Diagnostic),
        instantiator.prefabs.get? request.prefabId = some definition →
        definition.root.WellFormed →
        (∀ value, request.overridePatch = some value → value.WellFormed) →
        (Instantiator.chosenKey supply request drawn).1 = key →
        Instantiator.patchedRoot definition.root request = (root, patching) →
        let outcome := instantiator.instantiate supply request ids drawn
        let built := instantiator.built supply request ids drawn
        ∃ visits log,
          BuildsFrom instantiator definition.id key request.seedPersistentId root built log visits ∧
          outcome.diagnostics = patching ++ log ∧
          ∀ records, outcome.result = .ok records → records = built ∧
            visits = preorder instantiator.maxDepth key request.seedPersistentId 1 0 root := by
  subst hturns
  refine ⟨records_run { ids } document.entities, log_load self document ids supply,
    fun turn hturn => ?_, ?_⟩
  · exact turnAccounts self document.registry supply
      (hkeys turn.2 (snd_mem_of_mem_reached self document.registry supply hturn))
  · intro instantiator request ids drawn definition key root patching hget hroot hpatch hkey
    exact instantiate_buildsFrom instantiator supply request ids drawn hget hroot hpatch hkey

/-- The left candlestick and its candle are recorded, and a flame is lost in each. -/
theorem records_account_for_components_altar :
    let makeCandle : Instantiator := { prefabs := altar.registry, decoders := .standard }
    let request : InstanceRequest :=
      { prefabId := "candle", seedPersistentId := "left", instanceUuid := some "left" }
    let root : Template := { children := [{ components := [("Flame", .obj [])] }] }
    (∃ components, librarian.TurnAccounts altar.registry (nodeId "fresh")
      ({ ids := .startingAt 7 }, candlestick "left") components [flameReport "left"]) ∧
      ∃ visits, BuildsFrom makeCandle "candle" "left" "left" root
        (makeCandle.built (nodeId "fresh") request (.startingAt 8) 0) [flameReport "left-1"]
        visits := by
  have hkeys : ∀ entity ∈ altar.entities, (Object.keys entity.components).Nodup := by decide
  have hread : Definition.read candle = .ok
      { id := "candle"
        name := ""
        root := { children := [{ components := [("Flame", .obj [])] }] } } := rfl
  have hroot := Definition.wellFormed_of_read wellFormed_candle hread
  obtain ⟨-, -, hturns, hinstances⟩ := records_account_for_components librarian (nodeId "fresh")
    altar (.startingAt 7) rfl hkeys
  obtain ⟨components, log, hturn⟩ := hturns ({ ids := .startingAt 7 }, candlestick "left") (by
    rw [altar, reached]
    exact List.mem_cons_self)
  obtain ⟨visits, log', hbuilds, hlog', -⟩ := hinstances
    { prefabs := altar.registry, decoders := .standard }
    { prefabId := "candle", seedPersistentId := "left", instanceUuid := some "left" }
    (.startingAt 8) 0 _ "left" _ [] rfl hroot (fun _ hpatch => by cases hpatch) rfl rfl
  have hflame : log = [flameReport "left"] := hturn.accounts.log_eq.trans (by decide +kernel)
  have hflame' : log' = [flameReport "left-1"] := by
    rw [List.nil_append] at hlog'
    exact hlog'.symm.trans (by decide +kernel)
  exact ⟨⟨components, hflame ▸ hturn⟩, visits, hflame' ▸ hbuilds⟩

end Loader

end SceneLoad
