import SceneLoad.Proofs.LostReports
import SceneLoad.Proofs.MissingPrefab
import SceneLoad.Proofs.Providers

/-!
# Components that do not decode

`load_withoutRejected` compares the loads of a document with and without one component that does not
decode. Their reports are equal, and the log of the second lacks what is said of the component.

The component may belong to an entity. The entity then enters the pass as it would without it
(`enter_of_rejects`), even if the component is a marker or was to give the entity its id, and from
there on the passes are the same. Or it belongs to a node of a prefab. The prefabs are registered
all the same, and the passes differ in the turns that ask for this one
(`step_withoutPrefabComponent`). A patch might supply what the component lacks, so these are to ask
for it without one (`Loader.Unpatched`). States stay equal from turn to turn, so a pass loses what
its turns lose (`run_losesReports`).
-/

namespace SceneLoad

/-- Reports are left out of an output, and nothing else. -/
structure PassOutput.LosesReports (full less : PassOutput) (removed : List Diagnostic) :
    Prop where
  records : less.records = full.records
  instantiated : less.instantiated = full.instantiated
  skipped : less.skipped = full.skipped
  diagnostics : Loses full.diagnostics less.diagnostics removed

namespace PassOutput.LosesReports

variable {full full' less less' : PassOutput} {removed removed' : List Diagnostic}

theorem refl (output : PassOutput) : output.LosesReports output [] := ⟨rfl, rfl, rfl, .refl _⟩

theorem append (h : full.LosesReports less removed) (h' : full'.LosesReports less' removed') :
    (full ++ full').LosesReports (less ++ less') (removed ++ removed') := by
  refine ⟨?_, ?_, ?_, h.diagnostics.append h'.diagnostics⟩
  · rw [records_append, records_append, h.records, h'.records]
  · rw [instantiated_append, instantiated_append, h.instantiated, h'.instantiated]
  · rw [skipped_append, skipped_append, h.skipped, h'.skipped]

end PassOutput.LosesReports

/-! ## Components of entities -/

namespace Loader

section Entities

variable {self : Loader} {kind : String} {payload : Json} {error : DecodeError} {entity : Entity}

theorem authoredId?_without (h : self.decoders.Rejects kind payload error)
    (hfind : Object.find? entity.components kind = some payload) :
    self.authoredId? (entity.without kind) = self.authoredId? entity := by
  by_cases hkind : PersistentId.kind = kind
  · -- An id that does not decode gives none, as one that is not there.
    have hgone : Object.find? (entity.without kind).components kind = none :=
      Object.find?_erase_self kind entity.components
    have hcomponent : self.componentId? (entity.without kind) = self.componentId? entity := by
      unfold componentId?
      rw [hkind, hgone, hfind]
      dsimp only
      rw [h.result]
    unfold authoredId?
    rw [hcomponent]
    rfl
  · exact authoredId?_without_of_ne hkind

variable (supply : KeySupply) (state : PassState)

/-- The entity gets the same record and the same marker, and is reported of alike but for the
component. -/
theorem enter_of_rejects (h : self.decoders.Rejects kind payload error)
    (hkeys : (Object.keys entity.components).Nodup)
    (hfind : Object.find? entity.components kind = some payload) :
    self.entityMarker? (entity.without kind) = self.entityMarker? entity ∧
      self.enter supply state (entity.without kind) = self.enter supply state entity ∧
      Loses (self.seedDiagnostics supply state entity)
        (self.seedDiagnostics supply state (entity.without kind))
        [error.diagnostic.within (self.seedId supply state entity)] := by
  have hid := authoredId?_without h hfind
  have hdecoded := h.decodeEntries_erase hkeys hfind
  refine ⟨congrArg marker? (hdecoded "").1, ?_, ?_⟩
  · rw [enter_without hid]
    have hwithout : SortedMap.erase kind
        (self.decoders.decodeEntries (self.seedId supply state entity) entity.components).components
          = (self.decoders.decodeEntries (self.seedId supply state entity)
              entity.components).components :=
      (DecoderRegistry.components_decodeEntries_erase ..).symm.trans (hdecoded _).1
    unfold enter
    split_ifs
    · rw [Option.map_map]
      congr 1
      funext next
      simp only [Function.comp_apply, List.map_cons, List.map_nil, without_seedRecord, hwithout]
    · rfl
  · obtain ⟨first, rest, hwith, hless⟩ := seedDiagnostics_without hid supply state hkeys
    rw [hwith, hless, reportsOf, Object.filter_eq_of_find? hkeys hfind, h.diagnostics]
    exact .of_split ..

/-- From the entity on, a pass only loses the report of the component. -/
theorem run_without (h : self.decoders.Rejects kind payload error)
    (hkeys : (Object.keys entity.components).Nodup)
    (hfind : Object.find? entity.components kind = some payload) (prefabs : PrefabRegistry)
    (after : List Entity) :
    (self.run prefabs supply state (entity :: after)).LosesReports
      (self.run prefabs supply state (entity.without kind :: after))
      [error.diagnostic.within (self.seedId supply state entity)] := by
  have hseed := seedId_without (authoredId?_without h hfind) supply state
  obtain ⟨hmarker, henter, hdiagnostics⟩ := enter_of_rejects supply state h hkeys hfind
  have hown : ∀ own, (self.seedOutput supply state entity own).LosesReports
      (self.seedOutput supply state (entity.without kind) own)
      [error.diagnostic.within (self.seedId supply state entity)] := fun own =>
    ⟨rfl, rfl, rfl, hdiagnostics⟩
  cases hentered : self.enter supply state entity with
  | none =>
    rw [run_cons_of_enter_eq_none after hentered,
      run_cons_of_enter_eq_none after (henter.trans hentered), hseed]
    exact ⟨rfl, rfl, rfl, hdiagnostics.append (.refl _)⟩
  | some entered =>
    obtain ⟨entered, own⟩ := entered
    cases hmarked : self.entityMarker? entity with
    | none =>
      rw [run_cons_of_entityMarker?_eq_none after hentered hmarked,
        run_cons_of_entityMarker?_eq_none after (henter.trans hentered) (hmarker.trans hmarked)]
      exact (hown own).append (.refl _)
    | some marker =>
      rw [run_cons_of_entityMarker?_eq_some after hentered hmarked,
        run_cons_of_entityMarker?_eq_some after (henter.trans hentered) (hmarker.trans hmarked),
        hseed]
      exact ((hown own).append (.refl _)).append (.refl _)

end Entities

end Loader

/-! ## Passes -/

/-- Reports are left out of a turn, and nothing else. -/
def EntityStep.LosesReports : EntityStep → EntityStep → List Diagnostic → Prop
  | .next state full, .next state' less, removed => state' = state ∧ full.LosesReports less removed
  | .stop full, .stop less, removed => full.LosesReports less removed
  | _, _, _ => False

namespace Loader

section Passes

variable {self : Loader} {prefabs prefabs' : PrefabRegistry} {supply : KeySupply}
  {state : PassState} {entity : Entity} {marker : PrefabInstance} {seed : String}
  {removed : List Diagnostic}

theorem state_expand (self : Loader) (prefabs : PrefabRegistry) (supply : KeySupply)
    (state : PassState) (marker : PrefabInstance) (seed : String) :
    (self.expand prefabs supply state marker seed).1 =
      { ids := (self.outcome prefabs supply state marker seed).ids
        drawn := (self.outcome prefabs supply state marker seed).drawn
        seen :=
          match (self.outcome prefabs supply state marker seed).result with
          | .ok records => (claimRecords state.seen records).1
          | .error _ => state.seen
        instanceKeys := (claimKey (.ofMarker marker seed) state.instanceKeys).2.1 } := by
  unfold expand outcome
  dsimp only
  generalize Instantiator.instantiate _ supply _ state.ids state.drawn = outcome
  cases outcome.result with
  | ok records => rfl
  | error error => rfl

/-- The instance of a seed loses what the attempt loses, and the state after it is the same. -/
theorem expand_losesReports
    (h : (self.outcome prefabs supply state marker seed).LosesReports
      (self.outcome prefabs' supply state marker seed) removed) :
    (self.expand prefabs' supply state marker seed).1 =
        (self.expand prefabs supply state marker seed).1 ∧
      (self.expand prefabs supply state marker seed).2.LosesReports
        (self.expand prefabs' supply state marker seed).2 removed := by
  have hreports : ∀ first last : List Diagnostic,
      Loses (first ++ (self.outcome prefabs supply state marker seed).diagnostics ++ last)
        (first ++ (self.outcome prefabs' supply state marker seed).diagnostics ++ last)
        removed := by
    intro first last
    have happend := ((Loses.refl first).append h.diagnostics).append (.refl last)
    rwa [List.nil_append, List.append_nil] at happend
  refine ⟨?_, ?_⟩
  · rw [state_expand, state_expand, h.result, h.ids, h.drawn]
  · rw [output_expand, output_expand, h.result]
    cases (self.outcome prefabs supply state marker seed).result with
    | ok records => exact ⟨rfl, rfl, rfl, hreports _ _⟩
    | error error => exact ⟨rfl, rfl, rfl, hreports _ _⟩

/-- A turn loses what the attempt at its instance loses. -/
theorem step_losesReports
    (hattempt : ∀ entered own marker, self.enter supply state entity = some (entered, own) →
      self.entityMarker? entity = some marker →
        (self.outcome prefabs supply entered marker
          (self.seedId supply state entity)).LosesReports
            (self.outcome prefabs' supply entered marker (self.seedId supply state entity))
            removed)
    (hnone : self.enter supply state entity = none ∨ self.entityMarker? entity = none →
      removed = []) :
    (self.step prefabs supply state entity).LosesReports
      (self.step prefabs' supply state entity) removed := by
  rw [step_eq, step_eq]
  cases henter : self.enter supply state entity with
  | none =>
    rw [hnone (.inl henter)]
    exact .refl _
  | some entered =>
    obtain ⟨entered, own⟩ := entered
    cases hmarker : self.entityMarker? entity with
    | none =>
      rw [hnone (.inr hmarker)]
      exact ⟨rfl, .refl _⟩
    | some marker =>
      obtain ⟨hstate, houtput⟩ := expand_losesReports (hattempt entered own marker henter hmarker)
      exact ⟨hstate, (PassOutput.LosesReports.refl _).append houtput⟩

/-- A pass loses what its turns lose. -/
theorem run_losesReports {lost : PassState × Entity → List Diagnostic} :
    ∀ {state : PassState} {entities : List Entity},
      (∀ turn ∈ self.reached prefabs supply state entities,
        (self.step prefabs supply turn.1 turn.2).LosesReports
          (self.step prefabs' supply turn.1 turn.2) (lost turn)) →
        (self.run prefabs supply state entities).LosesReports
          (self.run prefabs' supply state entities)
          ((self.reached prefabs supply state entities).flatMap lost)
  | _, [], _ => .refl _
  | state, entity :: rest, h => by
    have hturn := h (state, entity) List.mem_cons_self
    rw [reached] at h ⊢
    rw [run, run, List.flatMap_cons]
    dsimp only at hturn
    cases hstep : self.step prefabs supply state entity with
    | stop output =>
      rw [hstep] at hturn
      cases hstep' : self.step prefabs' supply state entity with
      | next state' output' =>
        rw [hstep'] at hturn
        exact hturn.elim
      | stop output' =>
        rw [hstep'] at hturn
        rw [List.flatMap_nil, List.append_nil]
        exact hturn
    | next after output =>
      rw [hstep] at hturn h
      cases hstep' : self.step prefabs' supply state entity with
      | stop output' =>
        rw [hstep'] at hturn
        exact hturn.elim
      | next after' output' =>
        rw [hstep'] at hturn
        -- Both turns lead to one state, so the rest is reached from there in both passes.
        obtain ⟨rfl, houtput⟩ := hturn
        have hrest := fun turn hmem => h turn (List.mem_cons_of_mem _ hmem)
        exact houtput.append (run_losesReports hrest)

end Passes

/-! ## Loads -/

/-- Loads lose what their passes lose, if the same prefabs are registered. -/
theorem load_losesReports {self : Loader} {supply : KeySupply} {ids : IdAllocator}
    {document less : Document} {removed : List Diagnostic}
    (hlog : (PrefabRegistry.ofJson document.prefabs).2 = (PrefabRegistry.ofJson less.prefabs).2)
    (hids : document.registry.ids = less.registry.ids)
    (hrun : (self.run document.registry supply { ids } document.entities).LosesReports
      (self.run less.registry supply { ids } less.entities) removed) :
    (self.load less ids supply).1 = (self.load document ids supply).1 ∧
      Loses (self.load document ids supply).2 (self.load less ids supply).2 removed := by
  rw [load_eq, load_eq, hrun.records, hrun.instantiated, hrun.skipped, hids, hlog]
  exact ⟨rfl, (Loses.refl _).append hrun.diagnostics⟩

/-- What makes the instances of a pass. -/
def instantiator (self : Loader) (prefabs : PrefabRegistry) : Instantiator :=
  { prefabs, decoders := self.decoders, maxDepth := self.config.maxPrefabDepth }

/-- The records that are built in a turn from a node of the prefab at a position. -/
def builtFrom (self : Loader) (document : Document) (supply : KeySupply) (position : Nat)
    (address : List Nat) : PassState × Entity → List Record
  | (state, entity) =>
    match self.enter supply state entity, self.entityMarker? entity with
    | some (entered, _), some marker =>
      if document.provider? marker.prefabId = some position then
        (self.instantiator document.registry).builtFrom supply
          (claimKey (.ofMarker marker (self.seedId supply state entity)) entered.instanceKeys).1
          entered.ids entered.drawn address
      else []
    | _, _ => []

/-- Unless the attempt is given up, they are records of the instance. -/
theorem builtFrom_subset (self : Loader) (document : Document) (supply : KeySupply)
    (position : Nat) (address : List Nat) (turn : PassState × Entity) :
    self.instanceRecords document.registry supply turn.1 turn.2 = [] ∨
      self.builtFrom document supply position address turn ⊆
        self.instanceRecords document.registry supply turn.1 turn.2 := by
  obtain ⟨state, entity⟩ := turn
  cases henter : self.enter supply state entity with
  | none => exact .inl (by simp [instanceRecords, henter])
  | some entered =>
    cases hmarker : self.entityMarker? entity with
    | none => exact .inl (by simp [instanceRecords, hmarker])
    | some marker =>
      simp only [instanceRecords, builtFrom, henter, hmarker]
      refine (records_expand self document.registry supply entered.1 marker
        (self.seedId supply state entity)).imp_right fun hok => ?_
      have hbuilt := Instantiator.built_of_result hok
      split_ifs
      · exact fun record hmem => hbuilt ▸ Instantiator.builtFrom_subset_built hmem
      · exact List.nil_subset _

/-- No entity that enters a pass asks for the prefab at a position with a patch. -/
def Unpatched (self : Loader) (document : Document) (ids : IdAllocator) (supply : KeySupply)
    (position : Nat) : Prop :=
  ∀ turn ∈ self.reached document.registry supply { ids } document.entities,
    self.enter supply turn.1 turn.2 ≠ none →
      ∀ marker, self.entityMarker? turn.2 = some marker →
        document.provider? marker.prefabId = some position → marker.overridePatch = none

theorem overridePatch_claimKey (request : InstanceRequest) (used : List String) :
    (claimKey request used).1.overridePatch = request.overridePatch := by
  unfold claimKey
  split
  · rfl
  · split_ifs <;> rfl

section PrefabComponents

variable {self : Loader} {kind : String} {payload : Json} {error : DecodeError}
  {document less : Document} {before after : List Json} {value : Json} {definition : Definition}
  {address : List Nat} {node : Template}

variable (h : self.decoders.Rejects kind payload error) (hkind : kind ≠ PersistentId.kind)
  (hmarker : kind ≠ PrefabInstance.kind) (hprefabs : document.prefabs = before ++ value :: after)
  (hless : less.prefabs = before ++ value.withoutPrefabComponent kind address :: after)
  (hread : Definition.read value = .ok definition) (hnode : definition.root.at? address = some node)
  (hkeys : (Object.keys node.components).Nodup)
  (hfind : Object.find? node.components kind = some payload)

include h hkind hmarker hprefabs hless hread hnode hkeys hfind

/-- An attempt at an instance of the prefab loses a report for each record that is built from the
node, and other attempts lose nothing. -/
theorem instantiate_withoutPrefabComponent {request : InstanceRequest}
    (hpatch : document.provider? request.prefabId = some before.length →
      request.overridePatch = none) (supply : KeySupply) (ids : IdAllocator) (drawn : Nat) :
    ((self.instantiator document.registry).instantiate supply request ids drawn).LosesReports
      ((self.instantiator less.registry).instantiate supply request ids drawn)
      ((if document.provider? request.prefabId = some before.length then
          (self.instantiator document.registry).builtFrom supply request ids drawn address
        else []).map fun record => error.diagnostic.within record.persistentId) := by
  obtain ⟨-, -, hgets⟩ := registry_withoutPrefabComponent hprefabs hless hread hnode hfind
  have hget := hgets request.prefabId
  have hdecoders : (self.instantiator less.registry).decoders =
      (self.instantiator document.registry).decoders := rfl
  have hdepth : (self.instantiator less.registry).maxDepth =
      (self.instantiator document.registry).maxDepth := rfl
  split_ifs at hget ⊢ with hprovider
  · obtain ⟨hdefinition, hget⟩ := hget
    cases hfound : document.registry.get? request.prefabId with
    | none =>
      have hnothing : (self.instantiator document.registry).builtFrom supply request ids drawn
          address = [] := by
        unfold Instantiator.builtFrom instantiator
        rw [hfound]
      rw [hfound, Option.map_none, ← hfound] at hget
      rw [hnothing]
      exact instantiate_of_same hdecoders hdepth h hkind hget supply ids drawn
    | some found =>
      rw [hfound, hdefinition found hfound] at hget
      rw [hdefinition found hfound] at hfound
      exact instantiate_withoutComponent hdecoders hdepth h hkind hmarker hfound hget
        (hpatch hprovider) hnode hkeys hfind supply ids drawn
  · exact instantiate_of_same hdecoders hdepth h hkind hget supply ids drawn

/-- A turn loses a report for each record that is built from the node in it. -/
theorem step_withoutPrefabComponent {supply : KeySupply} {state : PassState} {entity : Entity}
    (hpatch : self.enter supply state entity ≠ none →
      ∀ marker, self.entityMarker? entity = some marker →
        document.provider? marker.prefabId = some before.length → marker.overridePatch = none) :
    (self.step document.registry supply state entity).LosesReports
      (self.step less.registry supply state entity)
      ((self.builtFrom document supply before.length address (state, entity)).map fun record =>
        error.diagnostic.within record.persistentId) := by
  refine step_losesReports (fun entered own marker henter hmarked => ?_) ?_
  · obtain ⟨hprefab, -⟩ := claimKey_request (.ofMarker marker (self.seedId supply state entity))
      entered.instanceKeys
    have hunpatched : document.provider? (claimKey (.ofMarker marker
        (self.seedId supply state entity)) entered.instanceKeys).1.prefabId =
          some before.length →
        (claimKey (.ofMarker marker (self.seedId supply state entity))
          entered.instanceKeys).1.overridePatch = none := by
      rw [hprefab, overridePatch_claimKey]
      exact hpatch (by simp [henter]) marker hmarked
    have hattempt := instantiate_withoutPrefabComponent h hkind hmarker hprefabs hless hread hnode
      hkeys hfind hunpatched supply entered.ids entered.drawn
    rw [hprefab] at hattempt
    simp only [builtFrom, henter, hmarked]
    exact hattempt
  · rintro (henter | hmarked)
    · simp [builtFrom, henter]
    · simp [builtFrom, hmarked]

/-- A load loses a report for each record that is built from the node. -/
theorem load_withoutPrefabComponent {ids : IdAllocator} {supply : KeySupply}
    (hentities : less.entities = document.entities)
    (hpatch : self.Unpatched document ids supply before.length) :
    (self.load less ids supply).1 = (self.load document ids supply).1 ∧
      Loses (self.load document ids supply).2 (self.load less ids supply).2
        ((self.reached document.registry supply { ids } document.entities).flatMap fun turn =>
          (self.builtFrom document supply before.length address turn).map fun record =>
            error.diagnostic.within record.persistentId) := by
  obtain ⟨hlog, hids, -⟩ := registry_withoutPrefabComponent hprefabs hless hread hnode hfind
  refine load_losesReports hlog hids ?_
  rw [hentities]
  exact run_losesReports fun turn hmem =>
    step_withoutPrefabComponent h hkind hmarker hprefabs hless hread hnode hkeys hfind
      (hpatch turn hmem)

end PrefabComponents

/-- A load loses the report of the component, if it gets to the entity. -/
theorem load_withoutEntityComponent {self : Loader} {kind : String} {payload : Json}
    {error : DecodeError} {document : Document} {before after : List Entity} {entity : Entity}
    (h : self.decoders.Rejects kind payload error)
    (hentities : document.entities = before ++ entity :: after)
    (hkeys : (Object.keys entity.components).Nodup)
    (hfind : Object.find? entity.components kind = some payload) (ids : IdAllocator)
    (supply : KeySupply) {less : Document}
    (hless : less = { document with entities := before ++ entity.without kind :: after }) :
    (self.load less ids supply).1 = (self.load document ids supply).1 ∧
      Loses (self.load document ids supply).2 (self.load less ids supply).2
        (match self.stateAfter document.registry supply { ids } before with
          | none => []
          | some state => [error.diagnostic.within (self.seedId supply state entity)]) := by
  subst hless
  refine load_losesReports rfl rfl ?_
  have hregistry : Document.registry
      { document with entities := before ++ entity.without kind :: after } =
        document.registry := rfl
  rw [hregistry, hentities, run_append, run_append]
  cases self.stateAfter document.registry supply { ids } before with
  | none => exact .refl _
  | some state =>
    exact (PassOutput.LosesReports.refl _).append
      (run_without supply state h hkeys hfind document.registry after)

/-- A component that does not decode costs a load nothing but its report. Without it the load comes
to the same, whether an entity has it or a node of a prefab. One report is lost if the pass gets to
the entity, and one for each record that is built from the node. -/
theorem load_withoutRejected (self : Loader) (hstandard : self.decoders = .standard)
    (ids : IdAllocator) (supply : KeySupply) {kind : String} {payload : Json} {error : DecodeError}
    (hfail : (self.decoders.decode kind payload).result = .error error) :
    (error.diagnostic.code = .unknownComponentKind ∨
        error.diagnostic.code = .malformedComponentPayload) ∧
      error.diagnostic.component = some kind ∧
      (∀ (document less : Document) (before after : List Entity) (entity : Entity),
        document.entities = before ++ entity :: after →
        less = { document with entities := before ++ entity.without kind :: after } →
        (Object.keys entity.components).Nodup →
        Object.find? entity.components kind = some payload →
        (self.load less ids supply).1 = (self.load document ids supply).1 ∧
          Loses (self.load document ids supply).2 (self.load less ids supply).2
            (match self.stateAfter document.registry supply { ids } before with
              | none => []
              | some state => [error.diagnostic.within (self.seedId supply state entity)])) ∧
      ∀ (document less : Document) (before after : List Json) (value : Json)
        (definition : Definition) (address : List Nat) (node : Template),
        document.prefabs = before ++ value :: after →
        less = { document with
          prefabs := before ++ value.withoutPrefabComponent kind address :: after } →
        value.WellFormed →
        Definition.read value = .ok definition →
        definition.root.at? address = some node →
        Object.find? node.components kind = some payload →
        kind ≠ PrefabInstance.kind → kind ≠ PersistentId.kind →
        self.Unpatched document ids supply before.length →
        let turns := self.reached document.registry supply { ids } document.entities
        (self.load less ids supply).1 = (self.load document ids supply).1 ∧
          Loses (self.load document ids supply).2 (self.load less ids supply).2
            (turns.flatMap fun turn =>
              (self.builtFrom document supply before.length address turn).map fun record =>
                error.diagnostic.within record.persistentId) ∧
          ∀ turn ∈ turns,
            self.instanceRecords document.registry supply turn.1 turn.2 = [] ∨
              self.builtFrom document supply before.length address turn ⊆
                self.instanceRecords document.registry supply turn.1 turn.2 := by
  have hrejects : self.decoders.Rejects kind payload error := by
    rw [hstandard] at hfail ⊢
    exact rejects_standard hfail
  refine ⟨?_, ?_, ?_, ?_⟩
  · cases error with
    | unknownKind _ => exact .inl rfl
    | malformedPayload _ _ => exact .inr rfl
  · exact congrArg some (DecoderRegistry.kind_of_decode hfail)
  · intro document less before after entity hentities hless hkeys hfind
    exact load_withoutEntityComponent hrejects hentities hkeys hfind ids supply hless
  · intro document less before after value definition address node hprefabs hless hvalue hread
      hnode hfind hmarker hkind hpatch
    have hkeys : (Object.keys node.components).Nodup := by
      cases (Definition.wellFormed_of_read hvalue hread).of_at? hnode with
      | mk hcomponents _ => exact hcomponents.nodup_keys
    have hchanged : less.prefabs =
        before ++ value.withoutPrefabComponent kind address :: after := by rw [hless]
    have hentities : less.entities = document.entities := by rw [hless]
    obtain ⟨hreport, hlog⟩ := load_withoutPrefabComponent hrejects hkind hmarker hprefabs hchanged
      hread hnode hkeys hfind hentities hpatch
    exact ⟨hreport, hlog, fun turn _ => builtFrom_subset self document supply _ address turn⟩

/-- A candle whose flame is of a kind that nothing decodes. -/
def candle : Json :=
  .obj [("id", .str "candle"),
    ("root", .obj [("children", .arr [.obj [("components", .obj [("Flame", .obj [])])]])])]

/-- A lit candlestick with a candle. -/
def candlestick (id : String) : Entity where
  persistentId := some id
  components :=
    [("Flame", .obj []),
      (PrefabInstance.kind, .obj [("prefabId", .str "candle"), ("instanceUuid", .str id)])]

/-- Two candlesticks. -/
def altar : Document where
  entities := [candlestick "left", candlestick "right"]
  prefabs := [candle]

theorem wellFormed_candle : candle.WellFormed := by
  have hcomponents : (Json.obj [("Flame", .obj [])]).WellFormed :=
    .obj (by decide) (by simpa using Json.wellFormed_nil)
  have hchild : (Json.obj [("components", .obj [("Flame", .obj [])])]).WellFormed :=
    .obj (by decide) (by simpa using hcomponents)
  have hchildren : (Json.arr [.obj [("components", .obj [("Flame", .obj [])])]]).WellFormed :=
    .arr (by simpa using hchild)
  have hroot : (Json.obj [("children",
      .arr [.obj [("components", .obj [("Flame", .obj [])])]])]).WellFormed :=
    .obj (by decide) (by simpa using hchildren)
  exact .obj (by decide) (by simpa using ⟨.str "candle", hroot⟩)

theorem unpatched_altar : librarian.Unpatched altar (.startingAt 7) (nodeId "fresh") 0 := by
  have hmarkers : ((librarian.reached altar.registry (nodeId "fresh") { ids := .startingAt 7 }
      altar.entities).all fun turn => (librarian.entityMarker? turn.2).all fun marker =>
        marker.overridePatch.isNone) = true := by
    decide +kernel
  intro turn hturn _ marker hmarker _
  have hnone := List.all_eq_true.1 hmarkers turn hturn
  rw [hmarker] at hnone
  exact Option.isNone_iff_eq_none.1 hnone

/-- The report of a flame. -/
def flameReport (entity : String) : Diagnostic :=
  (DecodeError.unknownKind "Flame").diagnostic.within entity

/-- Without the flame of the left candlestick, and without the flame of the candles. -/
theorem load_withoutRejected_altar :
    let full := librarian.load altar (.startingAt 7) (nodeId "fresh")
    let unlit := librarian.load
      { altar with entities := [(candlestick "left").without "Flame", candlestick "right"] }
      (.startingAt 7) (nodeId "fresh")
    let bare := librarian.load
      { altar with prefabs := [candle.withoutPrefabComponent "Flame" [0]] }
      (.startingAt 7) (nodeId "fresh")
    unlit.1 = full.1 ∧ Loses full.2 unlit.2 [flameReport "left"] ∧
      bare.1 = full.1 ∧ Loses full.2 bare.2 [flameReport "left-1", flameReport "right-1"] := by
  have hread : Definition.read candle = .ok
      { id := "candle"
        name := ""
        root := { children := [{ components := [("Flame", .obj [])] }] } } := rfl
  have hreports : ((librarian.reached altar.registry (nodeId "fresh") { ids := .startingAt 7 }
      altar.entities).flatMap fun turn =>
        (librarian.builtFrom altar (nodeId "fresh") 0 [0] turn).map fun record =>
          flameReport record.persistentId) = [flameReport "left-1", flameReport "right-1"] := by
    decide +kernel
  obtain ⟨-, -, hentity, hprefab⟩ := load_withoutRejected librarian rfl (.startingAt 7)
    (nodeId "fresh") (show (librarian.decoders.decode "Flame" (.obj [])).result = _ from rfl)
  obtain ⟨hunlit, hunlitLog⟩ := hentity altar _ [] [candlestick "right"] (candlestick "left") rfl
    rfl (by decide) rfl
  obtain ⟨hbare, hbareLog, -⟩ := hprefab altar _ [] [] candle _ [0] _ rfl rfl wellFormed_candle
    hread rfl rfl (by decide) (by decide) unpatched_altar
  refine ⟨hunlit, hunlitLog, hbare, ?_⟩
  rw [← hreports]
  exact hbareLog

end Loader

end SceneLoad
