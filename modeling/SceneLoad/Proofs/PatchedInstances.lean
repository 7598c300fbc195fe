import SceneLoad.Proofs.CarriedPatches
import SceneLoad.Proofs.RemainingIds
import SceneLoad.Proofs.StartingIds

/-!
# Instances under a patch

An instance under a patch is made by one of three ways : the template is walked as it is if there is
no patch or an empty one, it is merged with the patch first, or the patch is reported and passed
over. An empty patch merges to the template itself (`apply_of_isEmpty`), so the first two are one :
the attempt is the attempt at the merged template, after the reports of the merge.

The merged template lasts no longer than the attempt. What remains of it are the ids that it used,
and these matter to a later attempt only if too few are left (`instantiate_later`).
-/

namespace SceneLoad

/-! ## The patched template -/

namespace Patch

theorem applyChildren_of_nil {patch : Patch} (h : patch.children = []) :
    ∀ (index : Nat) (children : List Template),
      patch.applyChildren index children = (children, [])
  | _, [] => by rw [applyChildren]
  | index, child :: rest => by
    have hnone : SortedMap.find? patch.children index = none := by rw [h]; rfl
    rw [applyChildren, hnone, applyChildren_of_nil h (index + 1) rest]
    rfl

/-- An empty patch leaves everything as it is. -/
theorem apply_of_isEmpty {patch : Patch} (h : patch.isEmpty = true) (template : Template) :
    patch.apply template = (template, []) := by
  obtain ⟨hcomponents, hchildren⟩ : patch.components = [] ∧ patch.children = [] := by
    simpa [isEmpty] using h
  have hkinds : mergeComponents template.components patch.components = template.components := by
    simp [mergeComponents, hcomponents, Object.find?]
  rw [apply_eq, applyChildren_of_nil hchildren, hkinds, outOfRange, hchildren]
  cases template
  rfl

end Patch

/-- The report of a patch that cannot be parsed names the seed. -/
def InstanceRequest.malformedPatch (request : InstanceRequest) (fault : PatchFault) :
    Diagnostic where
  code := .malformedOverridePatch
  message := fault.payloadError.render ++ "; instantiating '" ++ request.prefabId ++ "' unpatched"
  entity := some request.seedPersistentId

namespace Instantiator

/-- The template under a patch that can be parsed, whether it is empty or not. -/
theorem patchedRoot_of_parse_ok {request : InstanceRequest} {value : Json} {patch : Patch}
    (hpatch : request.overridePatch = some value) (hparse : Patch.parse value = .ok patch)
    (root : Template) : patchedRoot root request = patch.apply root := by
  simp only [patchedRoot, hpatch, hparse]
  split_ifs with hempty
  · exact (Patch.apply_of_isEmpty hempty root).symm
  · rfl

theorem patchedRoot_of_parse_error {request : InstanceRequest} {value : Json} {fault : PatchFault}
    (hpatch : request.overridePatch = some value) (hparse : Patch.parse value = .error fault)
    (root : Template) : patchedRoot root request = (root, [request.malformedPatch fault]) := by
  simp only [patchedRoot, hpatch, hparse]
  rfl

end Instantiator

/-! ## Attempts -/

/-- The request without its patch. -/
def InstanceRequest.unpatched (request : InstanceRequest) : InstanceRequest :=
  { request with overridePatch := none }

/-- The outcome with something reported before it. -/
def InstanceOutcome.reporting (diagnostics : List Diagnostic) (outcome : InstanceOutcome) :
    InstanceOutcome :=
  { outcome with diagnostics := diagnostics ++ outcome.diagnostics }

theorem stamp_withPrefabs (self : Instantiator) (prefabs : PrefabRegistry)
    (prefabId key : String) : ∀ (visits : List Visit) (ids : IdAllocator),
      stamp { self with prefabs } prefabId key ids visits = stamp self prefabId key ids visits
  | [], _ => rfl
  | .tooDeep item :: rest, ids =>
    congrArg (Walk.reporting [_]) (stamp_withPrefabs self prefabs prefabId key rest ids)
  | .nested item :: rest, ids =>
    congrArg (Walk.reporting [_]) (stamp_withPrefabs self prefabs prefabId key rest ids)
  | .kept item number :: rest, ids => by
    rw [stamp, stamp]
    cases ids.allocate with
    | none => rfl
    | some next => simp only [stamp_withPrefabs self prefabs prefabId key rest next.2]

/-- A walk does not look at the registered prefabs. -/
theorem walk_withPrefabs (self : Instantiator) (prefabs : PrefabRegistry) (prefabId key : String)
    (ids : IdAllocator) (number : Nat) (pending : List PendingNode) :
    Instantiator.walk { self with prefabs } prefabId key ids number pending =
      self.walk prefabId key ids number pending := by
  rw [walk_eq_stamp, walk_eq_stamp, stamp_withPrefabs]

/-- An attempt is the unpatched attempt at a prefab whose template is the patched one, after the
reports of patching. -/
theorem instantiate_of_patchedRoot {self : Instantiator} {prefabs : PrefabRegistry}
    {request : InstanceRequest} {definition merged : Definition} {reports : List Diagnostic}
    (hget : self.prefabs.get? request.prefabId = some definition)
    (hmerged : prefabs.get? request.prefabId = some merged) (hid : merged.id = definition.id)
    (hroot : Instantiator.patchedRoot definition.root request = (merged.root, reports))
    (supply : KeySupply) (ids : IdAllocator) (drawn : Nat) :
    self.instantiate supply request ids drawn =
      (Instantiator.instantiate { self with prefabs } supply request.unpatched ids
        drawn).reporting reports := by
  have hunpatched : Instantiator.patchedRoot merged.root request.unpatched = (merged.root, []) :=
    rfl
  have hchosen : Instantiator.chosenKey supply request.unpatched drawn =
      Instantiator.chosenKey supply request drawn := rfl
  have hseed : request.unpatched.seedPersistentId = request.seedPersistentId := rfl
  have hmerged' : ({ self with prefabs } : Instantiator).prefabs.get? request.unpatched.prefabId =
      some merged := hmerged
  rw [instantiate_of_get? hget, instantiate_of_get? hmerged']
  simp only [InstanceOutcome.reporting, hroot, hunpatched, hid, hchosen, hseed, walk_withPrefabs,
    List.nil_append]

/-! ## Later attempts -/

/-- The record without its runtime id. -/
def Record.unnumbered (record : Record) : Record := { record with runtimeId := ⟨0⟩ }

/-- Two outcomes that differ in the runtime ids at most. -/
structure InstanceOutcome.SameButIds (left right : InstanceOutcome) : Prop where
  result : left.result.map (List.map Record.unnumbered) =
    right.result.map (List.map Record.unnumbered)
  diagnostics : left.diagnostics = right.diagnostics
  drawn : left.drawn = right.drawn

namespace IdAllocator

theorem exists_aligned (left right : IdAllocator) : ∃ s t, Aligned s t left right := by
  refine ⟨left.next.getD 0, right.next.getD 0, fun x y hx hy => ?_⟩
  rw [hx, hy, Option.getD_some, Option.getD_some, UInt64.sub_self, UInt64.sub_self]

end IdAllocator

/-- Complete walks from any two allocators have the same records but for the runtime ids. -/
theorem unnumbered_stamp (self : Instantiator) (prefabId key : String) (visits : List Visit)
    {left right : IdAllocator} (hleft : (stamp self prefabId key left visits).complete = true)
    (hright : (stamp self prefabId key right visits).complete = true) :
    (stamp self prefabId key left visits).records.map Record.unnumbered =
      (stamp self prefabId key right visits).records.map Record.unnumbered := by
  obtain ⟨s, t, haligned⟩ := IdAllocator.exists_aligned left right
  have hrebased := (stamp_aligned self prefabId key visits haligned hright hleft).1
  have hunnumbered := congrArg (List.map Record.unnumbered) hrebased
  rw [List.map_map, List.map_map] at hunnumbered
  exact hunnumbered

/-- An attempt that succeeds from one allocator is the same from another one with enough ids. -/
theorem instantiate_sameButIds (self : Instantiator) (supply : KeySupply)
    (request : InstanceRequest) {left right : IdAllocator} (drawn : Nat) {records : List Record}
    (hok : (self.instantiate supply request left drawn).result = .ok records)
    (henough : records.length ≤ right.remaining) :
    (self.instantiate supply request right drawn).SameButIds
      (self.instantiate supply request left drawn) := by
  cases hget : self.prefabs.get? request.prefabId with
  | none =>
    unfold Instantiator.instantiate at hok
    simp [hget] at hok
  | some definition =>
    rw [instantiate_of_get? hget] at hok ⊢
    rw [instantiate_of_get? hget]
    obtain ⟨-, hlength, hcomplete⟩ := walk_remaining self definition.id
      (Instantiator.chosenKey supply request drawn).1 request.seedPersistentId left
      (Instantiator.patchedRoot definition.root request).1 rfl
    obtain ⟨-, -, hcomplete'⟩ := walk_remaining self definition.id
      (Instantiator.chosenKey supply request drawn).1 request.seedPersistentId right
      (Instantiator.patchedRoot definition.root request).1 rfl
    dsimp only at hok ⊢
    split_ifs at hok with hleft
    obtain rfl := Except.ok.inj hok
    rw [hlength, Nat.min_eq_left (hcomplete.1 hleft)] at henough
    have hright := hcomplete'.2 henough
    rw [walk_eq_stamp] at hleft hright
    simp only [walk_eq_stamp, hleft, hright, if_true]
    refine ⟨?_, ?_, rfl⟩
    · exact congrArg Except.ok (unnumbered_stamp self definition.id _ _ hright hleft)
    · rw [diagnostics_stamp self _ _ _ left hleft, diagnostics_stamp self _ _ _ right hright]

/-- An attempt leaves no more ids than there were, and one that succeeds has used one a record. -/
theorem remaining_instantiate_le (self : Instantiator) (supply : KeySupply)
    (request : InstanceRequest) (ids : IdAllocator) (drawn : Nat) :
    (self.instantiate supply request ids drawn).ids.remaining ≤ ids.remaining ∧
      ∀ records, (self.instantiate supply request ids drawn).result = .ok records →
        records.length ≤ ids.remaining := by
  obtain ⟨between, hissues, hafter⟩ := spends_instantiate self supply request ids drawn
  have hremaining := hissues.remaining
  constructor
  · rcases hafter with hafter | hnone
    · rw [hafter]
      omega
    · rw [IdAllocator.remaining, hnone]
      exact Nat.zero_le _
  · intro records hok
    rw [hok, List.length_map] at hremaining
    exact hremaining ▸ Nat.le_add_right _ _

/-- A later attempt is what it would be without this one, but for the runtime ids, if it succeeds or
if there are ids enough for it. -/
theorem instantiate_later (self : Instantiator) (supply : KeySupply)
    (request later : InstanceRequest) (ids : IdAllocator) (drawn : Nat) {key : String}
    (hkey : usableKey request.instanceUuid = some key) {outcome : InstanceOutcome}
    (houtcome : self.instantiate supply request ids drawn = outcome) {records : List Record}
    (hmade : (self.instantiate supply later outcome.ids outcome.drawn).result = .ok records ∨
      (self.instantiate supply later ids drawn).result = .ok records ∧
        records.length ≤ outcome.ids.remaining) :
    (self.instantiate supply later outcome.ids outcome.drawn).SameButIds
      (self.instantiate supply later ids drawn) := by
  have hdrawn : outcome.drawn = drawn := by
    rw [← houtcome]
    cases hget : self.prefabs.get? request.prefabId with
    | none =>
      unfold Instantiator.instantiate
      rw [hget]
    | some definition =>
      rw [instantiate_of_get? hget]
      simp only [Instantiator.chosenKey, hkey]
  rw [hdrawn] at hmade ⊢
  rcases hmade with hok | ⟨hok, henough⟩
  · have hleft := (remaining_instantiate_le self supply later outcome.ids drawn).2 records hok
    have hless := (remaining_instantiate_le self supply request ids drawn).1
    rw [houtcome] at hless
    have hsame := instantiate_sameButIds self supply later drawn hok (Nat.le_trans hleft hless)
    exact ⟨hsame.result.symm, hsame.diagnostics.symm, hsame.drawn.symm⟩
  · exact instantiate_sameButIds self supply later drawn hok henough

/-- An instance under a patch. If the patch can be parsed, the attempt is the unpatched one at a
prefab of the same id with the merged template, after the reports of the merge, and otherwise it is
the unpatched one after one report of the patch. Later attempts are what they would be without it,
but for the runtime ids. -/
theorem instantiate_patched (self : Instantiator) (supply : KeySupply) (request : InstanceRequest)
    (ids : IdAllocator) (drawn : Nat) {definition : Definition} {key : String} {value : Json}
    (hget : self.prefabs.get? request.prefabId = some definition)
    (hkey : request.instanceUuid = some key) (hne : key ≠ "")
    (hpatch : request.overridePatch = some value) :
    (∀ patch, Patch.parse value = .ok patch →
      ∀ (prefabs : PrefabRegistry) (merged : Definition),
        prefabs.get? request.prefabId = some merged → merged.id = definition.id →
        merged.root = (patch.apply definition.root).1 →
          self.instantiate supply request ids drawn =
            (Instantiator.instantiate { self with prefabs } supply request.unpatched ids
              drawn).reporting (patch.apply definition.root).2) ∧
      (∀ fault, Patch.parse value = .error fault →
        self.instantiate supply request ids drawn =
          (self.instantiate supply request.unpatched ids drawn).reporting
            [request.malformedPatch fault]) ∧
      ∀ (later : InstanceRequest) (records : List Record),
        let outcome := self.instantiate supply request ids drawn
        let after := self.instantiate supply later outcome.ids outcome.drawn
        let alone := self.instantiate supply later ids drawn
        (after.result = .ok records ∨
          alone.result = .ok records ∧ records.length ≤ outcome.ids.remaining) →
            after.SameButIds alone := by
  refine ⟨fun patch hparse prefabs merged hmerged hid hroot => ?_, fun fault hparse => ?_,
    fun later records => ?_⟩
  · refine instantiate_of_patchedRoot hget hmerged hid ?_ supply ids drawn
    rw [Instantiator.patchedRoot_of_parse_ok hpatch hparse, hroot]
  · refine instantiate_of_patchedRoot hget hget rfl ?_ supply ids drawn
    rw [Instantiator.patchedRoot_of_parse_error hpatch hparse]
  · have husable : usableKey request.instanceUuid = some key := by
      rw [hkey, usableKey, if_neg hne]
    intro outcome after alone hmade
    exact instantiate_later self supply request later ids drawn husable rfl hmade

/-- A coat of paint for a lamp, and something for a fourth child, which the lamp does not have. -/
def paint : Patch where
  components := [("Paint", .str "red")]
  children := [(3, {})]

/-- The desk's lamp, painted. -/
def paintedLamp : InstanceRequest where
  prefabId := "lamp"
  seedPersistentId := "desk"
  instanceUuid := some "a-0"
  overridePatch := some <|
    .obj [("Paint", .str "red"), ("children", .arr [.null, .null, .null, .obj []])]

/-- The lamps with the paint on. -/
def paintedLamps (definition : Definition) : PrefabRegistry :=
  ⟨[("lamp", { definition with root := (paint.apply definition.root).1 })]⟩

theorem instantiate_patched_lamp :
    ∃ definition, lamp.prefabs.get? "lamp" = some definition ∧
      (paint.apply definition.root).2.length = 1 ∧
      lamp.instantiate toString paintedLamp (.startingAt 7) 0 =
        (Instantiator.instantiate { lamp with prefabs := paintedLamps definition } toString deskLamp
          (.startingAt 7) 0).reporting (paint.apply definition.root).2 ∧
      (lamp.instantiate toString deskLamp
        (lamp.instantiate toString paintedLamp (.startingAt 7) 0).ids
        (lamp.instantiate toString paintedLamp (.startingAt 7) 0).drawn).SameButIds
          (lamp.instantiate toString deskLamp (.startingAt 7) 0) := by
  obtain ⟨definition, hget, hreports⟩ : ∃ definition,
      lamp.prefabs.get? paintedLamp.prefabId = some definition ∧
        (paint.apply definition.root).2.length = 1 := ⟨_, rfl, rfl⟩
  obtain ⟨hpatched, -, hlater⟩ := instantiate_patched lamp toString paintedLamp (.startingAt 7) 0
    hget rfl (by decide) rfl
  have hparse : Patch.parse (.obj [("Paint", .str "red"),
      ("children", .arr [.null, .null, .null, .obj []])]) = .ok paint := rfl
  obtain ⟨records, hmade⟩ : ∃ records, (lamp.instantiate toString deskLamp
      (lamp.instantiate toString paintedLamp (.startingAt 7) 0).ids 0).result = .ok records := by
    simp only [Instantiator.instantiate, walk_eq_stamp]
    exact ⟨_, rfl⟩
  exact ⟨definition, hget, hreports,
    hpatched paint hparse (paintedLamps definition) _ rfl rfl rfl,
    hlater deskLamp records (.inl hmade)⟩

end SceneLoad
