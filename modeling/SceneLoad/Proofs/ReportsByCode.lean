import SceneLoad.Proofs.Merge
import SceneLoad.Proofs.Pass
import SceneLoad.Proofs.Preorder
import SceneLoad.Proofs.StandardDecoders

/-!
# Where reports come from

A log is sorted by the codes of its reports (`Diagnostic.ofCode`). Registering prefabs has codes of
its own (`ofCode_registration`), and so has an attempt at an instance : what it reports itself is
about the patch or about subtrees that are left out, and everything else is said of components by
the decoders (`ofCode_instantiate`).

Decoders may put anything into the log beside a component. One that is `Silent` about a code does
not use it, and the standard ones use no code but that of transforms (`silent_standard`).
-/

namespace SceneLoad

open Visit

/-- The reports with a code. -/
def Diagnostic.ofCode (code : DiagnosticCode) (log : List Diagnostic) : List Diagnostic :=
  log.filter fun diagnostic => diagnostic.code = code

namespace Diagnostic

theorem ofCode_append (code : DiagnosticCode) (log log' : List Diagnostic) :
    ofCode code (log ++ log') = ofCode code log ++ ofCode code log' :=
  List.filter_append ..

theorem ofCode_eq_nil_iff {code : DiagnosticCode} {log : List Diagnostic} :
    ofCode code log = [] ↔ ∀ diagnostic ∈ log, diagnostic.code ≠ code := by
  simp [ofCode, List.filter_eq_nil_iff]

theorem ofCode_flatMap {α : Type} (code : DiagnosticCode) (f : α → List Diagnostic)
    (xs : List α) : ofCode code (xs.flatMap f) = xs.flatMap fun x => ofCode code (f x) :=
  List.filter_flatMap

end Diagnostic

open Diagnostic

/-! ## Registration -/

theorem code_of_mem_parseFrom : ∀ (index : Nat) (values : List Json),
    ∀ diagnostic ∈ (Definition.parseFrom index values).2, diagnostic.code = .malformedPrefab
  | _, [], diagnostic, hmem => by simp [Definition.parseFrom] at hmem
  | index, value :: rest, diagnostic, hmem => by
    rw [Definition.parseFrom] at hmem
    cases hparse : Definition.parse index value with
    | ok definition =>
      simp only [hparse] at hmem
      exact code_of_mem_parseFrom (index + 1) rest diagnostic hmem
    | error first =>
      simp only [hparse] at hmem
      rcases List.mem_cons.1 hmem with rfl | hmem
      · unfold Definition.parse at hparse
        split at hparse
        · rw [← Except.error.inj hparse]
        · split_ifs at hparse
          rw [← Except.error.inj hparse]
      · exact code_of_mem_parseFrom (index + 1) rest diagnostic hmem

theorem code_of_mem_registerAll : ∀ (registry : PrefabRegistry) (definitions : List Definition),
    ∀ diagnostic ∈ (registry.registerAll definitions).2.2, diagnostic.code = .cyclicDependency
  | _, [], diagnostic, hmem => by simp [PrefabRegistry.registerAll] at hmem
  | registry, definition :: rest, diagnostic, hmem => by
    rw [PrefabRegistry.registerAll] at hmem
    cases hregister : registry.register definition with
    | ok registry' =>
      simp only [hregister] at hmem
      exact code_of_mem_registerAll registry' rest diagnostic hmem
    | error error =>
      simp only [hregister] at hmem
      rcases List.mem_cons.1 hmem with rfl | hmem
      · rfl
      · exact code_of_mem_registerAll registry rest diagnostic hmem

theorem ofCode_registration {code : DiagnosticCode}
    (hcode : code ∉ [DiagnosticCode.malformedPrefab, .cyclicDependency]) (values : List Json) :
    ofCode code (PrefabRegistry.ofJson values).2 = [] := by
  refine ofCode_eq_nil_iff.2 fun diagnostic hmem hdiagnostic => hcode ?_
  rw [← hdiagnostic]
  rcases List.mem_append.1 hmem with hmem | hmem
  · rw [code_of_mem_parseFrom 0 values diagnostic hmem]
    decide
  · rw [code_of_mem_registerAll _ _ diagnostic hmem]
    decide

/-! ## Decoders -/

/-- No decoder reports anything with this code beside its component. -/
def DecoderRegistry.Silent (registry : DecoderRegistry) (code : DiagnosticCode) : Prop :=
  ∀ kind payload, ∀ diagnostic ∈ (registry.decode kind payload).reported, diagnostic.code ≠ code

theorem silent_standard {code : DiagnosticCode} (hcode : code ≠ .invalidTransformArity) :
    DecoderRegistry.standard.Silent code := by
  intro kind payload diagnostic hmem
  rcases reported_standard kind payload with hnone | ⟨-, hreported⟩
  · simp [hnone] at hmem
  · rw [hreported diagnostic hmem]
    exact hcode.symm

/-- What is said of components is about components. -/
theorem DecoderRegistry.Silent.ofCode_decodeEntries {registry : DecoderRegistry}
    {code : DiagnosticCode} (hsilent : registry.Silent code)
    (hcode : code ∉ [DiagnosticCode.unknownComponentKind, .malformedComponentPayload])
    (entity : String) (entries : Object) :
    ofCode code (registry.decodeEntries entity entries).diagnostics = [] := by
  refine ofCode_eq_nil_iff.2 fun diagnostic hmem => ?_
  obtain ⟨outcome, houtcome, hmem⟩ := List.mem_flatMap.1 hmem
  obtain ⟨entry, -, rfl⟩ := List.mem_map.1 houtcome
  obtain ⟨reported, hreported, rfl⟩ := List.mem_map.1 hmem
  show reported.code ≠ code
  rcases List.mem_append.1 hreported with hreported | hreported
  · exact hsilent entry.1 entry.2 reported hreported
  · split at hreported
    · simp at hreported
    · next error _ =>
      rw [List.mem_singleton.1 hreported]
      rintro rfl
      cases error with
      | unknownKind kind => exact hcode List.mem_cons_self
      | malformedPayload kind source => exact hcode (List.mem_cons_of_mem _ List.mem_cons_self)

/-! ## Instances -/

/-- What is reported of the components of a node that is kept. -/
def Visit.componentReports (decoders : DecoderRegistry) (key : String) : Visit → List Diagnostic
  | .kept item number =>
    (decoders.decodeEntries (nodeId key number)
      (item.node.components.filter fun (kind, _) => kind ≠ PersistentId.kind)).diagnostics
  | _ => []

namespace Instantiator

/-- The visits of a prefab's patched template. There are none if the prefab is not registered. -/
def visits (self : Instantiator) (supply : KeySupply) (request : InstanceRequest) (drawn : Nat) :
    List Visit :=
  match self.prefabs.get? request.prefabId with
  | none => []
  | some definition =>
    preorder self.maxDepth (chosenKey supply request drawn).1 request.seedPersistentId 1 0
      (patchedRoot definition.root request).1

/-- What is reported of the components of an instance, as far as the ids go. -/
def componentReports (self : Instantiator) (supply : KeySupply) (request : InstanceRequest)
    (ids : IdAllocator) (drawn : Nat) : List Diagnostic :=
  (walked ids (self.visits supply request drawn)).flatMap
    (Visit.componentReports self.decoders (chosenKey supply request drawn).1)

end Instantiator

/-- What is reported of a patch is said of the seed or of a node. -/
theorem of_mem_patchedRoot {root : Template} {request : InstanceRequest}
    {diagnostic : Diagnostic} (h : diagnostic ∈ (Instantiator.patchedRoot root request).2) :
    (diagnostic.code = .malformedOverridePatch ∨ diagnostic.code = .childOverrideOutOfRange) ∧
      diagnostic.entity.isSome = true := by
  unfold Instantiator.patchedRoot at h
  split at h
  · simp at h
  · split at h
    · split_ifs at h
      · simp at h
      · rw [diagnostics_apply] at h
        obtain ⟨address, -, hmem⟩ := List.mem_flatMap.1 h
        obtain ⟨miss, -, rfl⟩ := List.mem_map.1 hmem
        exact ⟨.inr rfl, rfl⟩
    · rw [List.mem_singleton.1 h]
      exact ⟨.inl rfl, rfl⟩

/-- What an attempt at an instance reports itself is about the patch, or about a subtree that is
left out. -/
def Instantiator.ownCodes : List DiagnosticCode :=
  [.malformedOverridePatch, .childOverrideOutOfRange, .depthExceeded, .nestedPrefabInstance]

theorem ofCode_visit {code : DiagnosticCode} (hcode : code ∉ Instantiator.ownCodes)
    (self : Instantiator) (prefabId key : String) (visit : Visit) :
    ofCode code (visit.diagnostics self prefabId key) =
      ofCode code (visit.componentReports self.decoders key) := by
  cases visit with
  | kept item number => rfl
  | tooDeep item =>
    have hne : DiagnosticCode.depthExceeded ≠ code := by
      rintro rfl
      exact hcode (by decide)
    exact ofCode_eq_nil_iff.2 (List.forall_mem_singleton.2 hne)
  | nested item =>
    have hne : DiagnosticCode.nestedPrefabInstance ≠ code := by
      rintro rfl
      exact hcode (by decide)
    exact ofCode_eq_nil_iff.2 (List.forall_mem_singleton.2 hne)

/-- Anything else comes from the decoders. -/
theorem ofCode_instantiate {code : DiagnosticCode} (hcode : code ∉ Instantiator.ownCodes)
    (self : Instantiator) (supply : KeySupply) (request : InstanceRequest) (ids : IdAllocator)
    (drawn : Nat) :
    ofCode code (self.instantiate supply request ids drawn).diagnostics =
      ofCode code (self.componentReports supply request ids drawn) := by
  unfold Instantiator.instantiate Instantiator.componentReports Instantiator.visits
  cases self.prefabs.get? request.prefabId with
  | none => rfl
  | some definition =>
    have hpatching : ofCode code (Instantiator.patchedRoot definition.root request).2 = [] := by
      refine ofCode_eq_nil_iff.2 fun diagnostic hmem hdiagnostic => hcode ?_
      rw [← hdiagnostic]
      rcases (of_mem_patchedRoot hmem).1 with h | h <;> rw [h] <;> decide
    simp only [walk_eq_stamp, diagnostics_stamp_walked, ofCode_append, hpatching, List.nil_append,
      ofCode_flatMap, preorderPending, List.append_nil]
    exact List.flatMap_congr fun visit _ => ofCode_visit hcode self definition.id _ visit

theorem DecoderRegistry.Silent.ofCode_instance {self : Instantiator} {code : DiagnosticCode}
    (hsilent : self.decoders.Silent code)
    (hcode : code ∉ [DiagnosticCode.unknownComponentKind, .malformedComponentPayload])
    (supply : KeySupply) (request : InstanceRequest) (ids : IdAllocator) (drawn : Nat) :
    ofCode code (self.componentReports supply request ids drawn) = [] := by
  rw [Instantiator.componentReports, ofCode_flatMap, List.flatMap_eq_nil_iff]
  intro visit _
  cases visit with
  | kept item number => exact hsilent.ofCode_decodeEntries hcode ..
  | tooDeep item => rfl
  | nested item => rfl

/-! ## Turns -/

/-- What is reported of the components in an entity's turn : its own, and those of its instance. -/
def Loader.componentReports (self : Loader) (prefabs : PrefabRegistry) (supply : KeySupply)
    (state : PassState) (entity : Entity) : List Diagnostic :=
  (self.decoders.decodeEntries (self.seedId supply state entity) entity.components).diagnostics ++
    match self.enter supply state entity, self.entityMarker? entity with
    | some (entered, _), some marker =>
      let instantiator : Instantiator :=
        { prefabs, decoders := self.decoders, maxDepth := self.config.maxPrefabDepth }
      instantiator.componentReports supply
        (claimKey (.ofMarker marker (self.seedId supply state entity)) entered.instanceKeys).1
        entered.ids entered.drawn
    | _, _ => []

theorem DecoderRegistry.Silent.ofCode_componentReports {self : Loader} {code : DiagnosticCode}
    (hsilent : self.decoders.Silent code)
    (hcode : code ∉ [DiagnosticCode.unknownComponentKind, .malformedComponentPayload])
    (prefabs : PrefabRegistry) (supply : KeySupply) (state : PassState) (entity : Entity) :
    ofCode code (self.componentReports prefabs supply state entity) = [] := by
  unfold Loader.componentReports
  rw [ofCode_append, hsilent.ofCode_decodeEntries hcode, List.nil_append]
  split
  · exact hsilent.ofCode_instance hcode ..
  · rfl

end SceneLoad
