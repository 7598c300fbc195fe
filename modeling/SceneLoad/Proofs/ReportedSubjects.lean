import SceneLoad.Proofs.DecodedRecords
import SceneLoad.Proofs.PrefabFates

/-!
# What reports are about

Every report of a pass names an entity. One about an authored component (`Diagnostic.Concerns`)
also names the component's kind, and then the entity has such a component : it is an entity of the
document under the persistent id that the pass resolves for it, or a node of a patched template
under the id of the record that is built of it (`Loader.Bears`).

With the standard decoders this holds of whatever is said of the components of one entity
(`concerns_of_mem_decodeEntries`). An instance and a turn say such things and others, which are
about no component in particular (`Diagnostic.General`) or about a nested instance
(`Diagnostic.Traced`). So does a whole load, after what is said of prefab values, which is always
general (`load_subjects`).
-/

namespace SceneLoad

open Visit

/-! ## Reports -/

/-- The codes of reports about authored components. -/
def DiagnosticCode.componentCodes : List DiagnosticCode :=
  [.unknownComponentKind, .malformedComponentPayload, .invalidTransformArity]

open DiagnosticCode

namespace Diagnostic

/-- The report is about a component with this kind of the entity with this id. -/
structure Concerns (report : Diagnostic) (id kind : String) : Prop where
  entity : report.entity = some id
  component : report.component = some kind
  code : report.code ∈ componentCodes

/-- The report is about an entity, and not about a component. -/
structure General (report : Diagnostic) : Prop where
  entity : report.entity.isSome = true
  code : report.code ∉ .nestedPrefabInstance :: componentCodes

/-- The report is about an entity in general, or about a nested instance, or about a component of an
entity that has it. -/
inductive Traced (bears : (id kind : String) → Prop) (report : Diagnostic) : Prop
  | general (h : report.General)
  | nested (hcode : report.code = .nestedPrefabInstance) (hentity : report.entity.isSome = true)
    (hcomponent : report.component.isSome = true)
  | component {id kind : String} (hbears : bears id kind) (h : report.Concerns id kind)

theorem Traced.imp {bears bears' : String → String → Prop} {report : Diagnostic}
    (himp : ∀ id kind, bears id kind → bears' id kind) (h : report.Traced bears) :
    report.Traced bears' := by
  cases h with
  | general h => exact .general h
  | nested hcode hentity hcomponent => exact .nested hcode hentity hcomponent
  | component hbears h => exact .component (himp _ _ hbears) h

/-- What a report that is traced names. -/
theorem Traced.names {bears : String → String → Prop} {report : Diagnostic}
    (h : report.Traced bears) :
    report.entity.isSome = true ∧
      (report.code ∈ .nestedPrefabInstance :: componentCodes →
        report.component.isSome = true) ∧
      (report.code ∈ componentCodes → ∃ id kind, bears id kind ∧
        report.entity = some id ∧ report.component = some kind) := by
  cases h with
  | general h =>
    exact ⟨h.entity, fun hcode => absurd hcode h.code,
      fun hcode => absurd (List.mem_cons_of_mem _ hcode) h.code⟩
  | nested hcode hentity hcomponent =>
    refine ⟨hentity, fun _ => hcomponent, fun hmem => absurd hmem ?_⟩
    rw [hcode]
    decide
  | @component id kind hbears h =>
    refine ⟨?_, fun _ => ?_, fun _ => ⟨id, kind, hbears, h.entity, h.component⟩⟩
    · rw [h.entity, Option.isSome_some]
    · rw [h.component, Option.isSome_some]

theorem general_of_code (code : DiagnosticCode)
    (h : code ∉ .nestedPrefabInstance :: componentCodes) {report : Diagnostic} {entity : String}
    (hcode : report.code = code) (hentity : report.entity = some entity) : report.General :=
  ⟨hentity ▸ rfl, hcode ▸ h⟩

end Diagnostic

open Diagnostic

/-! ## Components -/

/-- What a standard decoder reports of its own accord names the kind, and no entity yet. -/
theorem reported_names_kind {kind : String} {value : Json} {report : Diagnostic}
    (h : report ∈ (DecoderRegistry.standard.decode kind value).reported) :
    report.code = .invalidTransformArity ∧ report.entity = none ∧ report.component = some kind := by
  cases hdecoder : DecoderRegistry.standard.decoder? kind with
  | none =>
    rw [DecoderRegistry.decode_of_decoder?_eq_none hdecoder] at h
    cases h
  | some decoder =>
    rw [DecoderRegistry.reported_decode hdecoder] at h
    obtain ⟨payload, hpayload, rfl, hkind⟩ := exists_declaring_payload hdecoder
    simp only [Payload.decoder, Payload.decode] at h
    split at h
    · next content _ =>
      rcases List.mem_cons.1 hpayload with rfl | hpayload
      · obtain rfl : kind = "Transform" := List.mem_singleton.1 hkind
        obtain ⟨error, -, rfl⟩ := List.mem_map.1 h
        exact ⟨rfl, rfl, rfl⟩
      · rw [diagnostics_complete payload hpayload content] at h
        cases h
    · cases h

theorem failureCode_mem (registry : DecoderRegistry) (kind : String) :
    registry.failureCode kind ∈ componentCodes := by
  unfold DecoderRegistry.failureCode
  split <;> decide

/-- All that is said of the components of an entity concerns them. -/
theorem concerns_of_mem_decodeEntries {id : String} {entries : Object} {report : Diagnostic}
    (h : report ∈ (DecoderRegistry.standard.decodeEntries id entries).diagnostics) :
    ∃ kind ∈ Object.keys entries, report.Concerns id kind := by
  rw [DecoderRegistry.diagnostics_decodeEntries] at h
  obtain ⟨entry, hentry, hreport⟩ := List.mem_flatMap.1 h
  refine ⟨entry.1, List.mem_map_of_mem hentry, ?_⟩
  rcases List.mem_append.1 hreport with hreport | hreport
  · obtain ⟨reported, hreported, rfl⟩ := List.mem_map.1 hreport
    obtain ⟨hcode, hentity, hcomponent⟩ := reported_names_kind hreported
    refine ⟨?_, hcomponent, ?_⟩
    · rw [Diagnostic.within, hentity, Option.none_or]
    · show reported.code ∈ componentCodes
      rw [hcode]
      decide
  · have hfailure := Option.mem_toList.1 hreport
    unfold DecoderRegistry.failure? at hfailure
    split at hfailure
    · cases hfailure
    · next error herror =>
      obtain rfl := Option.some.inj hfailure
      refine ⟨rfl, rfl, ?_⟩
      show error.code ∈ componentCodes
      rw [DecoderRegistry.code_of_result _ herror]
      exact failureCode_mem _ _

/-! ## Registrations -/

/-- What is reported of prefab values is about them. -/
theorem general_of_accounts {registry : PrefabRegistry} {index : Nat} {values : List Json}
    {fates : List Fate} (h : registry.Accounts index values fates) :
    ∀ fate ∈ fates, ∀ report, fate.malformed? = some report ∨ fate.refused? = some report →
      report.General := by
  induction h with
  | nil registry index => exact fun fate hmem => absurd hmem List.not_mem_nil
  | cons hfate _ ih =>
    refine List.forall_mem_cons.2 ⟨fun report hreport => ?_, ih⟩
    cases hfate with
    | unread =>
      rcases hreport with ⟨⟨⟩⟩ | ⟨⟨⟩⟩
      exact general_of_code .malformedPrefab (by decide) rfl rfl
    | unnamed =>
      rcases hreport with ⟨⟨⟩⟩ | ⟨⟨⟩⟩
      exact general_of_code .malformedPrefab (by decide) rfl rfl
    | refused =>
      rcases hreport with ⟨⟨⟩⟩ | ⟨⟨⟩⟩
      exact general_of_code .cyclicDependency (by decide) rfl rfl
    | accepted => rcases hreport with ⟨⟨⟩⟩ | ⟨⟨⟩⟩

theorem general_of_mem_ofJson {values : List Json} {report : Diagnostic}
    (h : report ∈ (PrefabRegistry.ofJson values).2) : report.General := by
  obtain ⟨fates, hfates, -⟩ := PrefabRegistry.existsUnique_accounts .empty 0 values
  obtain ⟨hmalformed, hrefused, -⟩ := PrefabRegistry.registration_of_accounts hfates
  have hlog : (PrefabRegistry.ofJson values).2 =
      fates.filterMap Fate.malformed? ++ fates.filterMap Fate.refused? :=
    congrArg₂ (· ++ ·) hmalformed hrefused
  rw [hlog, List.mem_append, List.mem_filterMap, List.mem_filterMap] at h
  rcases h with ⟨fate, hfate, hreport⟩ | ⟨fate, hfate, hreport⟩
  · exact general_of_accounts hfates fate hfate report (.inl hreport)
  · exact general_of_accounts hfates fate hfate report (.inr hreport)

/-! ## Nodes -/

/-- A kept node that a walk comes to is the node of a record, under the id that its number makes. -/
theorem exists_record_of_mem_walked (self : Instantiator) (prefabId key : String)
    {item : PendingNode} {number : Nat} : ∀ (visits : List Visit) (ids : IdAllocator) (first : Nat),
      Numbered first visits → .kept item number ∈ walked ids visits →
        ∃ (n : Nat) (record : Record), (keptNodes visits)[n]? = some item ∧
          (stamp self prefabId key ids visits).records[n]? = some record ∧
          record.persistentId = nodeId key number
  | [], _, _, _, hmem => absurd hmem List.not_mem_nil
  | .tooDeep _ :: rest, ids, first, hrest, hmem => by
    rw [walked_tooDeep, List.mem_cons] at hmem
    exact exists_record_of_mem_walked self prefabId key rest ids first hrest
      (hmem.resolve_left nofun)
  | .nested _ :: rest, ids, first, hrest, hmem => by
    rw [walked_nested, List.mem_cons] at hmem
    exact exists_record_of_mem_walked self prefabId key rest ids first hrest
      (hmem.resolve_left nofun)
  | .kept other number' :: rest, ids, first, ⟨_, hrest⟩, hmem => by
    rw [walked] at hmem
    rw [stamp]
    cases hids : ids.allocate with
    | none => simp [hids] at hmem
    | some next =>
      simp only [hids] at hmem ⊢
      rcases List.mem_cons.1 hmem with heq | hmem
      · obtain ⟨rfl, rfl⟩ := Visit.kept.inj heq
        exact ⟨0, _, rfl, rfl, rfl⟩
      · obtain ⟨n, record, hitem, hrecord, hid⟩ :=
          exists_record_of_mem_walked self prefabId key rest next.2 _ hrest hmem
        exact ⟨n + 1, record, hitem, hrecord, hid⟩

namespace Instantiator

/-- In an attempt at an instance an id is given to a node of the patched template with this kind
among its components : the node at the `n`-th kept address has the id of the `n`-th record that is
built. -/
inductive Bears (self : Instantiator) (supply : KeySupply) (request : InstanceRequest)
    (ids : IdAllocator) (drawn : Nat) : (id kind : String) → Prop
  | node {definition : Definition} {root node : Template} {address : List Nat} {n : Nat}
    {record : Record} {kind : String} (hget : self.prefabs.get? request.prefabId = some definition)
    (hroot : (patchedRoot definition.root request).1 = root)
    (haddress : (keptAddresses self.maxDepth 1 root)[n]? = some address)
    (hnode : root.at? address = some node)
    (hrecord : (self.built supply request ids drawn)[n]? = some record)
    (hkind : kind ∈ Object.keys node.components) :
    Bears self supply request ids drawn record.persistentId kind

variable {self : Instantiator} {supply : KeySupply} {request : InstanceRequest}
  {ids : IdAllocator} {drawn : Nat} {report : Diagnostic}

theorem general_of_mem_patchedRoot {root : Template}
    (h : report ∈ (patchedRoot root request).2) : report.General := by
  obtain ⟨hcode, hentity⟩ := of_mem_patchedRoot h
  refine ⟨hentity, ?_⟩
  rcases hcode with hcode | hcode <;> rw [hcode] <;> decide

/-- The records that are built are stamped along the visits. -/
theorem built_of_get? {definition : Definition}
    (hget : self.prefabs.get? request.prefabId = some definition) :
    self.built supply request ids drawn =
      (stamp self definition.id (chosenKey supply request drawn).1 ids
        (self.visits supply request drawn)).records := by
  rw [built, visits, hget]
  dsimp only
  rw [walk_eq_stamp, preorderPending, preorderPending, List.append_nil]

/-- The `n`-th kept node is at the `n`-th kept address. -/
theorem exists_keptAddress {definition : Definition}
    (hget : self.prefabs.get? request.prefabId = some definition) {n : Nat} {item : PendingNode}
    (hitem : (keptNodes (self.visits supply request drawn))[n]? = some item) :
    ∃ address,
      (keptAddresses self.maxDepth 1 (patchedRoot definition.root request).1)[n]? = some address ∧
        (patchedRoot definition.root request).1.at? address = some item.node := by
  rw [visits, hget] at hitem
  have hnodes := at?_keptAddresses self.maxDepth (chosenKey supply request drawn).1
    request.seedPersistentId 1 0 (patchedRoot definition.root request).1
  have hnth := congrArg (·[n]?) hnodes
  dsimp only at hitem hnth
  rw [List.getElem?_map, List.getElem?_map, hitem] at hnth
  exact Option.map_eq_some_iff.1 hnth

/-- What is said at a visit of the patched template. -/
theorem traced_of_mem_visit (hstandard : self.decoders = .standard) {definition : Definition}
    (hget : self.prefabs.get? request.prefabId = some definition) {visit : Visit}
    (hvisit : visit ∈ walked ids (self.visits supply request drawn))
    (h : report ∈ visit.diagnostics self definition.id (chosenKey supply request drawn).1) :
    report.Traced (self.Bears supply request ids drawn) := by
  cases visit with
  | tooDeep item =>
    rw [List.mem_singleton.1 h]
    exact .general (general_of_code .depthExceeded (by decide) rfl rfl)
  | nested item =>
    rw [List.mem_singleton.1 h]
    exact .nested rfl rfl rfl
  | kept item number =>
    rw [Visit.diagnostics, hstandard] at h
    obtain ⟨kind, hkind, hconcerns⟩ := concerns_of_mem_decodeEntries h
    have hnumbered : Numbered 0 (self.visits supply request drawn) := by
      rw [visits, hget]
      exact numbered_preorder ..
    obtain ⟨n, record, hitem, hrecord, hid⟩ := exists_record_of_mem_walked self definition.id
      (chosenKey supply request drawn).1 _ ids 0 hnumbered hvisit
    obtain ⟨address, haddress, hnode⟩ := exists_keptAddress hget hitem
    rw [← built_of_get? hget] at hrecord
    rw [← hid] at hconcerns
    refine .component (.node hget rfl haddress hnode hrecord ?_) hconcerns
    exact (List.filter_sublist.map Prod.fst).subset hkind

/-- What is said of an instance. -/
theorem traced_of_mem_instantiate (hstandard : self.decoders = .standard)
    (h : report ∈ (self.instantiate supply request ids drawn).diagnostics) :
    report.Traced (self.Bears supply request ids drawn) := by
  cases hget : self.prefabs.get? request.prefabId with
  | none =>
    unfold instantiate at h
    rw [hget] at h
    cases h
  | some definition =>
    rw [instantiate_of_get? hget] at h
    rcases List.mem_append.1 h with h | h
    · exact .general (general_of_mem_patchedRoot h)
    · rw [walk_eq_stamp, preorderPending, preorderPending, List.append_nil,
        diagnostics_stamp_walked] at h
      obtain ⟨visit, hvisit, h⟩ := List.mem_flatMap.1 h
      refine traced_of_mem_visit hstandard hget ?_ h
      rwa [visits, hget]

end Instantiator

/-! ## Turns -/

namespace Loader

/-- In a turn an id is given to an entity, or to a node that is instantiated for it, with this kind
among its authored components. -/
inductive Bears (self : Loader) (prefabs : PrefabRegistry) (supply : KeySupply)
    (turn : PassState × Entity) : (id kind : String) → Prop
  | entity {kind : String} (hkind : kind ∈ Object.keys turn.2.components) :
    Bears self prefabs supply turn (self.seedId supply turn.1 turn.2) kind
  | node {entered : PassState} {own : List Record} {marker : PrefabInstance} {id kind : String}
    (henter : self.enter supply turn.1 turn.2 = some (entered, own))
    (hmarker : self.entityMarker? turn.2 = some marker)
    (hbears : (self.instantiator prefabs).Bears supply
      (claimKey (.ofMarker marker (self.seedId supply turn.1 turn.2)) entered.instanceKeys).1
      entered.ids entered.drawn id kind) :
    Bears self prefabs supply turn id kind

variable {self : Loader} {prefabs : PrefabRegistry} {supply : KeySupply}
  {turn : PassState × Entity} {report : Diagnostic}

theorem general_of_mem_claimKey {request : InstanceRequest} {used : List String}
    (h : report ∈ (claimKey request used).2.2) : report.General := by
  unfold claimKey at h
  split at h
  · cases h
  · split_ifs at h
    · rw [List.mem_singleton.1 h]
      exact general_of_code .duplicatePersistentId (by decide) rfl rfl
    · cases h

theorem general_of_mem_claimRecords : ∀ (seen : List String) (records : List Record),
    report ∈ (claimRecords seen records).2 → report.General
  | _, [], h => by cases h
  | seen, record :: rest, h => by
    rw [claimRecords] at h
    split_ifs at h
    · rcases List.mem_cons.1 h with rfl | h
      · exact general_of_code .duplicatePersistentId (by decide) rfl rfl
      · exact general_of_mem_claimRecords _ rest h
    · exact general_of_mem_claimRecords _ rest h

theorem general_error (error : InstanceError) : error.diagnostic.General := by
  cases error with
  | prefabNotFound => exact general_of_code .prefabNotFound (by decide) rfl rfl
  | idsExhausted => exact general_of_code .entityIdsExhausted (by decide) rfl rfl

/-- What is said of an entity before its own record. -/
theorem traced_of_mem_seedDiagnostics (hstandard : self.decoders = .standard)
    (h : report ∈ self.seedDiagnostics supply turn.1 turn.2) :
    report.Traced (self.Bears prefabs supply turn) := by
  rcases List.mem_append.1 h with h | h
  · split_ifs at h
    · rw [List.mem_singleton.1 h]
      exact .general (general_of_code .duplicatePersistentId (by decide) rfl rfl)
    · cases h
  · rw [hstandard] at h
    obtain ⟨kind, hkind, hconcerns⟩ := concerns_of_mem_decodeEntries h
    exact .component (.entity hkind) hconcerns

/-- What is said of the instance that an entity is marked as. -/
theorem traced_of_mem_expand (hstandard : self.decoders = .standard) {entered : PassState}
    {own : List Record} {marker : PrefabInstance}
    (henter : self.enter supply turn.1 turn.2 = some (entered, own))
    (hmarker : self.entityMarker? turn.2 = some marker)
    (h : report ∈ (self.expand prefabs supply entered marker
      (self.seedId supply turn.1 turn.2)).2.diagnostics) :
    report.Traced (self.Bears prefabs supply turn) := by
  rw [diagnostics_expand] at h
  rcases List.mem_append.1 h with h | h
  · rcases List.mem_append.1 h with h | h
    · exact .general (general_of_mem_claimKey h)
    · have hmade : report ∈ ((self.instantiator prefabs).instantiate supply
          (claimKey (.ofMarker marker (self.seedId supply turn.1 turn.2)) entered.instanceKeys).1
          entered.ids entered.drawn).diagnostics := h
      exact (Instantiator.traced_of_mem_instantiate hstandard hmade).imp fun id kind hbears =>
        .node henter hmarker hbears
  · split at h
    · exact .general (general_of_mem_claimRecords _ _ h)
    · rw [List.mem_singleton.1 h]
      exact .general (general_error _)

theorem traced_of_mem_turnOutput (hstandard : self.decoders = .standard)
    (h : report ∈ (self.turnOutput prefabs supply turn).diagnostics) :
    report.Traced (self.Bears prefabs supply turn) := by
  rw [turnOutput, step_eq] at h
  cases henter : self.enter supply turn.1 turn.2 with
  | none =>
    simp only [henter] at h
    rcases List.mem_append.1 h with h | h
    · exact traced_of_mem_seedDiagnostics hstandard h
    · rw [List.mem_singleton.1 h]
      exact .general (general_of_code .entityIdsExhausted (by decide) rfl rfl)
  | some entered =>
    obtain ⟨entered, own⟩ := entered
    cases hmarker : self.entityMarker? turn.2 with
    | none =>
      simp only [henter, hmarker, expandMarker] at h
      exact traced_of_mem_seedDiagnostics hstandard h
    | some marker =>
      simp only [henter, hmarker, expandMarker, PassOutput.diagnostics_append] at h
      rcases List.mem_append.1 h with h | h
      · exact traced_of_mem_seedDiagnostics hstandard h
      · exact traced_of_mem_expand hstandard henter hmarker h

/-- With the standard decoders every report of a load names an entity, and every one about a
component or a nested instance names a component kind. The entity of a report about a component has
an authored component of that kind. -/
theorem load_subjects (hstandard : self.decoders = .standard) (document : Document)
    (ids : IdAllocator) (supply : KeySupply) :
    ∀ report ∈ (self.load document ids supply).2,
      report.entity.isSome = true ∧
      (report.code ∈ .nestedPrefabInstance :: componentCodes →
        report.component.isSome = true) ∧
      (report.code ∈ componentCodes →
        ∃ turn ∈ self.reached document.registry supply { ids } document.entities, ∃ id kind,
          self.Bears document.registry supply turn id kind ∧
            report.entity = some id ∧ report.component = some kind) := by
  intro report h
  rw [log_load] at h
  rcases List.mem_append.1 h with h | h
  · have hgeneral : report.Traced fun _ _ => False := .general (general_of_mem_ofJson h)
    obtain ⟨hentity, hcomponent, hbears⟩ := hgeneral.names
    refine ⟨hentity, hcomponent, fun hcode => ?_⟩
    obtain ⟨_, _, hfalse, -⟩ := hbears hcode
    exact hfalse.elim
  · obtain ⟨turn, hturn, h⟩ := List.mem_flatMap.1 h
    obtain ⟨hentity, hcomponent, hbears⟩ := (traced_of_mem_turnOutput hstandard h).names
    exact ⟨hentity, hcomponent, fun hcode => ⟨turn, hturn, hbears hcode⟩⟩

/-- A candle that is made for the left candlestick has the flame that is reported of it. -/
theorem load_subjects_altar :
    flameReport "left-1" ∈ (librarian.load altar (.startingAt 7) (nodeId "fresh")).2 ∧
      ∃ turn ∈ librarian.reached altar.registry (nodeId "fresh") { ids := .startingAt 7 }
          altar.entities,
        librarian.Bears altar.registry (nodeId "fresh") turn "left-1" "Flame" := by
  have hmem : flameReport "left-1" ∈
      (librarian.load altar (.startingAt 7) (nodeId "fresh")).2 := by decide +kernel
  have hstandard : librarian.decoders = .standard := rfl
  obtain ⟨-, -, hsubject⟩ := load_subjects hstandard altar (.startingAt 7) (nodeId "fresh") _ hmem
  obtain ⟨turn, hturn, id, kind, hbears, hid, hkind⟩ := hsubject (by decide)
  obtain rfl := Option.some.inj hid
  obtain rfl := Option.some.inj hkind
  exact ⟨hmem, turn, hturn, hbears⟩

end Loader

end SceneLoad
