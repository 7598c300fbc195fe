import SceneLoad.Proofs.Duplicates
import SceneLoad.Proofs.MissingPrefab

/-!
# What becomes of seeds

An entity with a marker is a seed. In a pass that does not run out of ids every seed is accounted
for : its instance is made and counted, or its prefab is not registered and it is skipped, with one
report (`load_seeds`). The records of the pass are those of its turns, in the order of the document.

Within an instance the parent of a node is a node that was kept before it, one level up, or the seed
(`Wired`). So one climbs from every record of an instance to the seed's own record in as many steps
as the node has levels (`Climbs`).
-/

namespace SceneLoad

open Diagnostic Visit

/-! ## Parents -/

/-- Following parents leads from one position of a list of records to another in some steps. Each
step goes to an earlier record, the one that is named as the parent. -/
inductive Climbs (records : List Record) : Nat → Nat → Nat → Prop
  | refl (position : Nat) : Climbs records position position 0
  | step {position parent top steps : Nat} {record above : Record} (hlt : parent < position)
      (hrecord : records[position]? = some record) (habove : records[parent]? = some above)
      (hparent : record.parentPersistentId = some above.persistentId)
      (hrest : Climbs records parent top steps) : Climbs records position top (steps + 1)

/-- A list of records may stand anywhere among others. -/
theorem Climbs.between {records : List Record} {position top steps : Nat}
    (h : Climbs records position top steps) (first rest : List Record) :
    Climbs (first ++ records ++ rest) (first.length + position) (first.length + top) steps := by
  have hlift : ∀ {n : Nat} {record : Record}, records[n]? = some record →
      (first ++ records ++ rest)[first.length + n]? = some record := by
    intro n record hn
    have hbound : n < records.length := (List.getElem?_eq_some_iff.1 hn).1
    rw [List.append_assoc, List.getElem?_append_right (by omega), Nat.add_sub_cancel_left,
      List.getElem?_append_left hbound, hn]
  induction h with
  | refl position => exact .refl _
  | step hlt hrecord habove hparent _ ih =>
    exact .step (by omega) (hlift hrecord) (hlift habove) hparent ih

/-- The parent of each node is the given one, or a node before it that is one level up. The first
node has the given number. -/
def Wired (maxDepth : Nat) (key parent : String) (level number : Nat) (items : List PendingNode) :
    Prop :=
  ∀ (n : Nat) (item : PendingNode), items[n]? = some item → item.level ≤ maxDepth ∧
    (item.parent = parent ∧ item.level = level ∨
      ∃ (m : Nat) (above : PendingNode), m < n ∧ items[m]? = some above ∧
        item.parent = nodeId key (number + m) ∧ item.level = above.level + 1)

section Wired

variable {maxDepth : Nat} {key parent : String} {level number : Nat}

theorem wired_nil : Wired maxDepth key parent level number [] := by
  intro n item h
  simp at h

theorem Wired.append {xs ys : List PendingNode} (hxs : Wired maxDepth key parent level number xs)
    (hys : Wired maxDepth key parent level (number + xs.length) ys) :
    Wired maxDepth key parent level number (xs ++ ys) := by
  intro n item h
  rcases Nat.lt_or_ge n xs.length with hlt | hge
  · rw [List.getElem?_append_left hlt] at h
    obtain ⟨hlevel, htop | ⟨m, above, hm, habove, hparent, hup⟩⟩ := hxs n item h
    · exact ⟨hlevel, .inl htop⟩
    · have hbound : m < xs.length := by omega
      exact ⟨hlevel, .inr ⟨m, above, hm, by rwa [List.getElem?_append_left hbound], hparent, hup⟩⟩
  · rw [List.getElem?_append_right hge] at h
    obtain ⟨hlevel, htop | ⟨m, above, hm, habove, hparent, hup⟩⟩ := hys _ item h
    · exact ⟨hlevel, .inl htop⟩
    · refine ⟨hlevel, .inr ⟨xs.length + m, above, by omega, ?_, ?_, hup⟩⟩
      · rw [List.getElem?_append_right (by omega), Nat.add_sub_cancel_left, habove]
      · rw [hparent, Nat.add_assoc]

/-- A node comes before its children, who name it as their parent. -/
theorem Wired.cons {item : PendingNode} {children : List PendingNode}
    (hparent : item.parent = parent) (hlevel : item.level = level) (hdepth : level ≤ maxDepth)
    (hchildren : Wired maxDepth key (nodeId key number) (level + 1) (number + 1) children) :
    Wired maxDepth key parent level number (item :: children) := by
  intro n other h
  cases n with
  | zero =>
    obtain rfl : item = other := Option.some.inj h
    exact ⟨hlevel.symm ▸ hdepth, .inl ⟨hparent, hlevel⟩⟩
  | succ n =>
    rw [List.getElem?_cons_succ] at h
    obtain ⟨hother, ⟨htop, hone⟩ | ⟨m, above, hm, habove, hname, hup⟩⟩ := hchildren n other h
    · exact ⟨hother, .inr ⟨0, item, by omega, rfl, htop, by omega⟩⟩
    · refine ⟨hother, .inr ⟨m + 1, above, by omega, ?_, ?_, hup⟩⟩
      · rwa [List.getElem?_cons_succ]
      · rw [hname, Nat.add_assoc, Nat.add_comm 1]

mutual

theorem wired_preorder (maxDepth : Nat) (key parent : String) (level number : Nat) :
    ∀ template : Template, Wired maxDepth key parent level number
      (keptNodes (preorder maxDepth key parent level number template))
  | ⟨name, tags, components, children⟩ => by
    rw [preorder]
    split_ifs with hdeep
    · exact wired_nil
    · exact wired_nil
    · have hchildren := wired_preorderAll maxDepth key (nodeId key number) (level + 1)
        (number + 1) children
      rw [keptNodes_kept]
      exact .cons rfl rfl (by omega) hchildren

theorem wired_preorderAll (maxDepth : Nat) (key parent : String) (level number : Nat) :
    ∀ templates : List Template, Wired maxDepth key parent level number
      (keptNodes (preorderAll maxDepth key parent level number templates))
  | [] => by
    rw [preorderAll]
    exact wired_nil
  | child :: rest => by
    rw [preorderAll, keptNodes_append]
    exact (wired_preorder maxDepth key parent level number child).append
      (wired_preorderAll maxDepth key parent level _ rest)

end

end Wired

/-- One climbs from a record of an instance to the seed in as many steps as its node has levels. -/
theorem FollowsPreorder.climbs {self : Instantiator} {prefabId key : String} {ids : IdAllocator}
    {root : Template} {records : List Record} {log : List Diagnostic} {own : Record}
    (h : FollowsPreorder self prefabId key own.persistentId ids root records log) :
    ∀ (n : Nat) (item : PendingNode),
      (keptNodes (preorder self.maxDepth key own.persistentId 1 0 root))[n]? = some item →
        Climbs (own :: records) (n + 1) 0 item.level := by
  intro n
  -- The induction follows the parents : a parent is kept before its children.
  induction n using Nat.strong_induction_on with
  | _ n ih =>
    intro item hitem
    obtain ⟨id, -, hrecord⟩ := h.record n item hitem
    obtain ⟨-, hcases⟩ := wired_preorder self.maxDepth key own.persistentId 1 0 root n item hitem
    rcases hcases with ⟨hparent, hlevel⟩ | ⟨m, above, hm, habove, hparent, hlevel⟩
    · rw [hlevel]
      exact .step (Nat.succ_pos n) hrecord rfl (congrArg some hparent) (.refl 0)
    · obtain ⟨id', -, hrecord'⟩ := h.record m above habove
      rw [hlevel]
      rw [Nat.zero_add] at hparent
      exact .step (Nat.succ_lt_succ hm) hrecord hrecord' (congrArg some hparent)
        (ih m hm above habove)

theorem PrefabRegistry.get?_eq_none_iff (registry : PrefabRegistry) (id : String) :
    registry.get? id = none ↔ id ∉ registry.ids :=
  SortedMap.find?_eq_none_iff ..

/-- An attempt fails because the prefab is missing, or makes the instance, or runs out of ids. -/
theorem instantiate_cases (self : Instantiator) (supply : KeySupply) (request : InstanceRequest)
    (ids : IdAllocator) (drawn : Nat) :
    request.prefabId ∉ self.prefabs.ids ∧ (self.instantiate supply request ids drawn).result =
        .error (.prefabNotFound request.prefabId request.seedPersistentId) ∨
      request.prefabId ∈ self.prefabs.ids ∧
        ((∃ records, (self.instantiate supply request ids drawn).result = .ok records) ∨
          ∃ prefabId seed, (self.instantiate supply request ids drawn).result =
            .error (.idsExhausted prefabId seed)) := by
  unfold Instantiator.instantiate
  cases hget : self.prefabs.get? request.prefabId with
  | none => exact .inl ⟨(self.prefabs.get?_eq_none_iff _).1 hget, rfl⟩
  | some definition =>
    have hmem : request.prefabId ∈ self.prefabs.ids := SortedMap.mem_keys_of_find? hget
    refine .inr ⟨hmem, ?_⟩
    dsimp only
    split_ifs
    · exact .inl ⟨_, rfl⟩
    · exact .inr ⟨_, _, rfl⟩

namespace Loader

/-! ## Turns of seeds -/

/-- The marker of an entity, if it names a prefab that is not registered. -/
def missing? (self : Loader) (registered : List String) (entity : Entity) :
    Option PrefabInstance :=
  (self.entityMarker? entity).filter fun marker => marker.prefabId ∉ registered

/-- The marker and the persistent id of an entity whose prefab is not registered. -/
def missingSeed? (self : Loader) (registered : List String) (supply : KeySupply)
    (turn : PassState × Entity) : Option (PrefabInstance × String) :=
  (self.missing? registered turn.2).map fun marker =>
    (marker, self.seedId supply turn.1 turn.2)

/-- The report of a seed whose prefab is missing. -/
def missingReport : PrefabInstance × String → Diagnostic
  | (marker, seed) => (InstanceError.prefabNotFound marker.prefabId seed).diagnostic

variable {self : Loader} {prefabs : PrefabRegistry} {supply : KeySupply}
  {state state' : PassState} {entity : Entity} {output : PassOutput}

/-- In a pass that does not run out of ids, an attempt fails only because the prefab is missing. -/
theorem outcome_cases {marker : PrefabInstance} {seed : String}
    (h : IdsLast (self.expand prefabs supply state marker seed).2.diagnostics) :
    marker.prefabId ∉ prefabs.ids ∧ (self.outcome prefabs supply state marker seed).result =
        .error (.prefabNotFound marker.prefabId seed) ∨
      marker.prefabId ∈ prefabs.ids ∧
        ∃ records, (self.outcome prefabs supply state marker seed).result = .ok records := by
  obtain ⟨hprefab, hseed⟩ := claimKey_request (.ofMarker marker seed) state.instanceKeys
  have hcases := instantiate_cases
    { prefabs, decoders := self.decoders, maxDepth := self.config.maxPrefabDepth } supply
    (claimKey (.ofMarker marker seed) state.instanceKeys).1 state.ids state.drawn
  rw [hprefab, hseed] at hcases
  rcases hcases with hmissing | ⟨hmem, hok | ⟨prefabId, seed', hexhausted⟩⟩
  · exact .inl hmissing
  · exact .inr ⟨hmem, hok⟩
  · exact absurd hexhausted (outcome_of_idsLast h prefabId seed')

theorem code_of_mem_claimRecords : ∀ (seen : List String) (records : List Record),
    ∀ diagnostic ∈ (claimRecords seen records).2, diagnostic.code = .duplicatePersistentId
  | _, [], diagnostic, hmem => by simp [claimRecords] at hmem
  | seen, record :: rest, diagnostic, hmem => by
    have hrest := code_of_mem_claimRecords (claim record.persistentId seen) rest diagnostic
    rw [claimRecords] at hmem
    split_ifs at hmem
    · rcases List.mem_cons.1 hmem with rfl | hmem
      · rfl
      · exact hrest hmem
    · exact hrest hmem

theorem code_of_mem_claimKey {request : InstanceRequest} {used : List String}
    {diagnostic : Diagnostic} (h : diagnostic ∈ (claimKey request used).2.2) :
    diagnostic.code = .duplicatePersistentId := by
  unfold claimKey at h
  split at h
  · simp at h
  · split_ifs at h
    · rw [List.mem_singleton.1 h]
      rfl
    · simp at h

/-- Reports of ids in use are about nothing else. -/
theorem ofCode_eq_nil_of_duplicates {code : DiagnosticCode}
    (hcode : code ≠ .duplicatePersistentId) {log : List Diagnostic}
    (h : ∀ diagnostic ∈ log, diagnostic.code = .duplicatePersistentId) : ofCode code log = [] :=
  ofCode_eq_nil_iff.2 fun diagnostic hmem => by
    rw [h diagnostic hmem]
    exact hcode.symm

theorem ofCode_seedDiagnostics {code : DiagnosticCode} (hcode : code ≠ .duplicatePersistentId)
    (self : Loader) (supply : KeySupply) (state : PassState) (entity : Entity) :
    ofCode code (self.seedDiagnostics supply state entity) =
      ofCode code (self.decoders.decodeEntries (self.seedId supply state entity)
        entity.components).diagnostics := by
  unfold seedDiagnostics
  dsimp only
  rw [ofCode_append, ofCode_eq_nil_of_duplicates hcode, List.nil_append]
  split_ifs
  · exact List.forall_mem_singleton.2 rfl
  · simp

/-- A seed's instance is made and counted, or the seed is skipped and reported. -/
theorem seed_expand {marker : PrefabInstance} {seed : String}
    (h : IdsLast (self.expand prefabs supply state marker seed).2.diagnostics) :
    ofCode .prefabNotFound (self.expand prefabs supply state marker seed).2.diagnostics =
        ofCode .prefabNotFound (self.outcome prefabs supply state marker seed).diagnostics ++
          (if marker.prefabId ∈ prefabs.ids then [] else [missingReport (marker, seed)]) ∧
      (self.expand prefabs supply state marker seed).2.skipped =
        (if marker.prefabId ∈ prefabs.ids then [] else [seed]) ∧
      (self.expand prefabs supply state marker seed).2.instantiated =
        (if marker.prefabId ∈ prefabs.ids then 1 else 0) := by
  have hkey : ofCode .prefabNotFound
      (claimKey (.ofMarker marker seed) state.instanceKeys).2.2 = [] :=
    ofCode_eq_nil_of_duplicates DiagnosticCode.noConfusion fun diagnostic => code_of_mem_claimKey
  rw [output_expand]
  rcases outcome_cases h with ⟨hmissing, hresult⟩ | ⟨hregistered, records, hresult⟩
  · simp only [hresult, if_neg hmissing, ofCode_append, hkey, List.nil_append, and_self, and_true]
    rfl
  · have hclaimed : ofCode .prefabNotFound (claimRecords state.seen records).2 = [] :=
      ofCode_eq_nil_of_duplicates DiagnosticCode.noConfusion
        (code_of_mem_claimRecords state.seen records)
    simp only [hresult, if_pos hregistered, ofCode_append, hkey, hclaimed, List.nil_append,
      and_self]

/-- An entity that is marked is made an instance of, or skipped. -/
theorem seed_of_step_next (h : self.step prefabs supply state entity = .next state' output)
    (hlast : IdsLast output.diagnostics) :
    ofCode .prefabNotFound output.diagnostics =
        ofCode .prefabNotFound (self.componentReports prefabs supply state entity) ++
          (self.missingSeed? prefabs.ids supply (state, entity)).toList.map missingReport ∧
      output.skipped = (self.missingSeed? prefabs.ids supply (state, entity)).toList.map Prod.snd ∧
      output.instantiated + output.skipped.length =
        [entity].countP fun entity => (self.entityMarker? entity).isSome := by
  obtain ⟨entered, own, henter, hcases⟩ := step_next_cases h
  have hseed : ofCode .prefabNotFound (self.seedDiagnostics supply state entity) = _ :=
    ofCode_seedDiagnostics DiagnosticCode.noConfusion self supply state entity
  unfold componentReports
  rw [henter, ofCode_append, ← hseed]
  rcases hcases with ⟨hmarker, -, rfl⟩ | ⟨marker, hmarker, -, rfl⟩
  · have hnone : self.missingSeed? prefabs.ids supply (state, entity) = none := by
      simp [missingSeed?, missing?, hmarker]
    rw [hnone, hmarker]
    simp [seedOutput, hmarker, ofCode]
  · have hexpansion := (idsLast_append.1 hlast).2
    obtain ⟨hreports, hskipped, hmade⟩ := seed_expand hexpansion
    have hcode : DiagnosticCode.prefabNotFound ∉ Instantiator.ownCodes := by decide
    have hattempt := ofCode_instantiate hcode
      { prefabs, decoders := self.decoders, maxDepth := self.config.maxPrefabDepth } supply
      (claimKey (.ofMarker marker (self.seedId supply state entity)) entered.instanceKeys).1
      entered.ids entered.drawn
    rw [hmarker]
    dsimp only
    rw [← hattempt]
    have hmissing : self.missingSeed? prefabs.ids supply (state, entity) =
        if marker.prefabId ∈ prefabs.ids then none
        else some (marker, self.seedId supply state entity) := by
      by_cases hmem : marker.prefabId ∈ prefabs.ids
      · simp [missingSeed?, missing?, hmarker, hmem]
      · simp [missingSeed?, missing?, hmarker, hmem]
    rw [hmissing]
    refine ⟨?_, ?_, ?_⟩
    · rw [PassOutput.diagnostics_append, ofCode_append, hreports, seedOutput, outcome]
      split_ifs <;> simp
    · rw [PassOutput.skipped_append, hskipped, seedOutput]
      split_ifs <;> rfl
    · rw [PassOutput.skipped_append, PassOutput.instantiated_append, hskipped, hmade, seedOutput]
      simp only [List.countP_singleton, hmarker]
      split_ifs <;> simp_all

/-! ## Passes -/

/-- In a pass that does not run out of ids, every entity has its turn, and every seed is counted or
skipped. -/
theorem seeds_run : ∀ {state : PassState} {entities : List Entity},
    IdsLast (self.run prefabs supply state entities).diagnostics →
      (self.reached prefabs supply state entities).map Prod.snd = entities ∧
        ofCode .prefabNotFound (self.run prefabs supply state entities).diagnostics =
          ((self.reached prefabs supply state entities).flatMap fun turn =>
            ofCode .prefabNotFound (self.componentReports prefabs supply turn.1 turn.2) ++
              (self.missingSeed? prefabs.ids supply turn).toList.map missingReport) ∧
        (self.run prefabs supply state entities).skipped =
          ((self.reached prefabs supply state entities).filterMap
            (self.missingSeed? prefabs.ids supply)).map Prod.snd ∧
        (self.run prefabs supply state entities).instantiated +
            (self.run prefabs supply state entities).skipped.length =
          entities.countP fun entity => (self.entityMarker? entity).isSome
  | _, [], _ => ⟨rfl, rfl, rfl, rfl⟩
  | state, entity :: rest, h => by
    obtain ⟨state', output, hstep, hturn, hrest⟩ := step_of_idsLast h
    obtain ⟨hentities, hreports, hskipped, hcount⟩ := seeds_run hrest
    obtain ⟨hreports', hskipped', hcount'⟩ := seed_of_step_next hstep hturn
    have hcons : (entity :: rest).countP (fun entity => (self.entityMarker? entity).isSome) =
        [entity].countP (fun entity => (self.entityMarker? entity).isSome) +
          rest.countP (fun entity => (self.entityMarker? entity).isSome) := by
      rw [← List.countP_append, List.singleton_append]
    rw [run, reached, hstep]
    dsimp only
    refine ⟨by rw [List.map_cons, hentities], ?_, ?_, ?_⟩
    · rw [PassOutput.diagnostics_append, ofCode_append, hreports', hreports, List.flatMap_cons]
    · rw [PassOutput.skipped_append, hskipped', hskipped, ← List.map_append,
        List.filterMap_eq_flatMap_toList, List.filterMap_eq_flatMap_toList, List.flatMap_cons]
    · rw [PassOutput.skipped_append, PassOutput.instantiated_append, List.length_append, hcons]
      omega

theorem enter_of_mem_reached : ∀ {state : PassState} {entities : List Entity},
    IdsLast (self.run prefabs supply state entities).diagnostics →
      ∀ turn ∈ self.reached prefabs supply state entities,
        (self.enter supply turn.1 turn.2).isSome
  | _, [], _, turn, hmem => by simp [reached] at hmem
  | state, entity :: rest, h, turn, hmem => by
    obtain ⟨state', output, hstep, -, hrest⟩ := step_of_idsLast h
    rw [reached, hstep] at hmem
    rcases List.mem_cons.1 hmem with rfl | hmem
    · obtain ⟨entered, own, henter, -⟩ := step_next_cases hstep
      rw [henter]
      rfl
    · exact enter_of_mem_reached hrest turn hmem

/-- The records of a turn : the entity's own, and those of its instance. -/
def turnRecords (self : Loader) (prefabs : PrefabRegistry) (supply : KeySupply)
    (turn : PassState × Entity) : List Record :=
  self.ownRecords supply turn.1 turn.2 ++ self.instanceRecords prefabs supply turn.1 turn.2

/-- An entity that has entered has its own record if entities become records. -/
theorem map_persistentId_ownRecords (h : (self.enter supply state entity).isSome) :
    (self.ownRecords supply state entity).map Record.persistentId =
      if self.config.emitSeedRecords then [self.seedId supply state entity] else [] := by
  obtain ⟨⟨entered, own⟩, henter⟩ := Option.isSome_iff_exists.1 h
  rw [ownRecords, henter]
  rcases enter_cases henter with ⟨hemit, id, ids, -, -, rfl⟩ | ⟨hemit, -, rfl⟩
  · rw [hemit]
    rfl
  · rw [hemit]
    rfl

/-- From the records of an instance one climbs to the seed's own record. -/
theorem climbs_turnRecords (hemit : self.config.emitSeedRecords = true) {n : Nat}
    (hn : n < (self.instanceRecords prefabs supply state entity).length) :
    ∃ steps ≤ self.config.maxPrefabDepth,
      Climbs (self.turnRecords prefabs supply (state, entity)) (n + 1) 0 steps := by
  unfold turnRecords ownRecords
  unfold instanceRecords at hn ⊢
  dsimp only
  cases henter : self.enter supply state entity with
  | none => simp [henter] at hn
  | some entered =>
    obtain ⟨entered, own⟩ := entered
    cases hmarker : self.entityMarker? entity with
    | none => simp [henter, hmarker] at hn
    | some marker =>
      simp only [henter, hmarker] at hn ⊢
      obtain ⟨hown, -⟩ := claims_enter hemit henter
      obtain ⟨record, rfl, hrecord⟩ := List.map_eq_singleton_iff.1 hown
      rw [← hrecord] at hn ⊢
      obtain ⟨-, hseed⟩ := claimKey_request (.ofMarker marker record.persistentId)
        entered.instanceKeys
      rcases records_expand self prefabs supply entered marker record.persistentId with hnone | hok
      · simp [hnone] at hn
      · obtain ⟨definition, root, patching, log, -, -, -, -, hfollows⟩ :=
          instantiate_eq_ok _ _ _ _ _ hok
        rw [hseed] at hfollows
        have hkept := List.getElem?_eq_getElem (hfollows.length_records ▸ hn)
        obtain ⟨hlevel, -⟩ := wired_preorder _ _ _ 1 0 root n _ hkept
        exact ⟨_, hlevel, hfollows.climbs n _ hkept⟩

end Loader

namespace Loader

variable {self : Loader} {prefabs : PrefabRegistry} {supply : KeySupply}

/-- One climbs to the seed's own record wherever the turn stands in the pass. -/
theorem climbs_flatMap (hemit : self.config.emitSeedRecords = true)
    {before after : List (PassState × Entity)} {turn : PassState × Entity}
    (henter : (self.enter supply turn.1 turn.2).isSome) {records : List Record} {top : Nat}
    (hrecords : records = (before ++ turn :: after).flatMap (self.turnRecords prefabs supply))
    (htop : top = (before.flatMap (self.turnRecords prefabs supply)).length) :
    records[top]?.map Record.persistentId = some (self.seedId supply turn.1 turn.2) ∧
      ∀ n < (self.instanceRecords prefabs supply turn.1 turn.2).length,
        records[top + (n + 1)]? = (self.instanceRecords prefabs supply turn.1 turn.2)[n]? ∧
          ∃ steps ≤ self.config.maxPrefabDepth, Climbs records (top + (n + 1)) top steps := by
  have hown := map_persistentId_ownRecords henter
  rw [if_pos hemit] at hown
  obtain ⟨record, hrecord, hid⟩ := List.map_eq_singleton_iff.1 hown
  have hturn : self.turnRecords prefabs supply turn =
      record :: self.instanceRecords prefabs supply turn.1 turn.2 := by
    rw [turnRecords, hrecord, List.singleton_append]
  have hsplit : records = before.flatMap (self.turnRecords prefabs supply) ++
      self.turnRecords prefabs supply turn ++
        after.flatMap (self.turnRecords prefabs supply) := by
    rw [hrecords, List.flatMap_append, List.flatMap_cons, List.append_assoc]
  have hget : ∀ n < (self.turnRecords prefabs supply turn).length,
      records[top + n]? = (self.turnRecords prefabs supply turn)[n]? := by
    intro n hn
    rw [hsplit, List.append_assoc, htop, List.getElem?_append_right (by omega),
      Nat.add_sub_cancel_left, List.getElem?_append_left hn]
  refine ⟨?_, fun n hn => ⟨?_, ?_⟩⟩
  · have hfirst := hget 0 (by simp [hturn])
    rw [Nat.add_zero] at hfirst
    rw [hfirst, hturn, List.getElem?_cons_zero, Option.map_some, hid]
  · rw [hget (n + 1) (by simpa [hturn] using hn), hturn, List.getElem?_cons_succ]
  · obtain ⟨steps, hsteps, hclimbs⟩ := climbs_turnRecords hemit hn
    refine ⟨steps, hsteps, ?_⟩
    rw [hsplit, htop]
    exact hclimbs.between _ _

/-- In a load that does not run out of ids, the records are those of the entities in order, each
followed by its instance; every seed is counted or, if its prefab is missing, skipped and reported
once; and one climbs from every record of an instance to the seed's own record, in no more steps
than templates have levels. What decoders themselves report in the words of a missing prefab comes
on top. -/
theorem load_seeds (self : Loader) (document : Document) (ids : IdAllocator) (supply : KeySupply)
    {report : Report} {log : List Diagnostic} {turns : List (PassState × Entity)}
    (hload : self.load document ids supply = (report, log)) (hlast : IdsLast log)
    (hturns : self.reached document.registry supply { ids } document.entities = turns) :
    turns.map Prod.snd = document.entities ∧
      report.records = turns.flatMap (self.turnRecords document.registry supply) ∧
      (∀ turn ∈ turns, (self.ownRecords supply turn.1 turn.2).map Record.persistentId =
        if self.config.emitSeedRecords then [self.seedId supply turn.1 turn.2] else []) ∧
      report.instantiatedSeeds + report.skippedSeeds.length =
        document.entities.countP (fun entity => (self.entityMarker? entity).isSome) ∧
      report.skippedSeeds =
        (turns.filterMap (self.missingSeed? report.registeredPrefabs supply)).map Prod.snd ∧
      ofCode .prefabNotFound log = (turns.flatMap fun turn =>
        ofCode .prefabNotFound (self.componentReports document.registry supply turn.1 turn.2) ++
          (self.missingSeed? report.registeredPrefabs supply turn).toList.map missingReport) ∧
      (self.decoders.Silent .prefabNotFound → ofCode .prefabNotFound log =
        (turns.filterMap (self.missingSeed? report.registeredPrefabs supply)).map
          missingReport) ∧
      (self.config.emitSeedRecords = true → ∀ before turn after, turns = before ++ turn :: after →
        let top := (before.flatMap (self.turnRecords document.registry supply)).length
        report.records[top]?.map Record.persistentId = some (self.seedId supply turn.1 turn.2) ∧
          ∀ n < (self.instanceRecords document.registry supply turn.1 turn.2).length,
            report.records[top + (n + 1)]? =
                (self.instanceRecords document.registry supply turn.1 turn.2)[n]? ∧
              ∃ steps ≤ self.config.maxPrefabDepth,
                Climbs report.records (top + (n + 1)) top steps) := by
  rw [load_eq] at hload
  obtain ⟨rfl, rfl⟩ := Prod.mk.inj hload
  have hrun := (idsLast_append.1 hlast).2
  obtain ⟨hentities, hreports, hskipped, hcount⟩ := seeds_run hrun
  have hentered := enter_of_mem_reached hrun
  have hrecords := @records_run self document.registry supply { ids } document.entities
  rw [hturns] at hentities hreports hskipped hentered hrecords
  have hlog := ofCode_append .prefabNotFound (PrefabRegistry.ofJson document.prefabs).2
    (self.run document.registry supply { ids } document.entities).diagnostics
  rw [ofCode_registration (by decide), List.nil_append, hreports] at hlog
  refine ⟨hentities, hrecords, fun turn hmem => map_persistentId_ownRecords (hentered turn hmem),
    hcount, hskipped, hlog, fun hsilent => ?_, fun hemit before turn after hsplit => ?_⟩
  · rw [hlog, List.filterMap_eq_flatMap_toList, List.map_flatMap]
    refine List.flatMap_congr fun turn _ => ?_
    rw [hsilent.ofCode_componentReports (by decide), List.nil_append]
  · rw [hsplit] at hrecords hentered
    exact climbs_flatMap hemit (hentered turn (by simp)) hrecords rfl

/-- The shelf with a gap skips the atlas, and the page of its left book is two steps below the
book's place. -/
theorem load_seeds_shelfWithGap :
    IdsLast (librarian.load shelfWithGap (.startingAt 7) (nodeId "fresh")).2 ∧
      (librarian.load shelfWithGap (.startingAt 7) (nodeId "fresh")).1.instantiatedSeeds +
          (librarian.load shelfWithGap (.startingAt 7) (nodeId "fresh")).1.skippedSeeds.length =
        3 ∧
      (librarian.load shelfWithGap (.startingAt 7) (nodeId "fresh")).1.skippedSeeds = ["atlas"] ∧
      ofCode .prefabNotFound (librarian.load shelfWithGap (.startingAt 7) (nodeId "fresh")).2 =
        [(InstanceError.prefabNotFound "atlas" "atlas").diagnostic] ∧
      ∃ steps ≤ 64, Climbs
        (librarian.load shelfWithGap (.startingAt 7) (nodeId "fresh")).1.records 2 0 steps := by
  have hlast : IdsLast (librarian.load shelfWithGap (.startingAt 7) (nodeId "fresh")).2 := by
    unfold IdsLast
    decide +kernel
  obtain ⟨-, -, -, hcount, -, -, hreports, hclimbs⟩ :=
    load_seeds librarian shelfWithGap (.startingAt 7) (nodeId "fresh") Prod.mk.eta.symm hlast rfl
  have hinstance : 1 < (librarian.instanceRecords shelfWithGap.registry (nodeId "fresh")
      { ids := .startingAt 7 } (bookWithKey "left" "a")).length := by decide +kernel
  obtain ⟨-, hbelow⟩ := hclimbs rfl [] ({ ids := .startingAt 7 }, bookWithKey "left" "a") _ rfl
  have hreport := hreports (silent_standard DiagnosticCode.noConfusion)
  exact ⟨hlast, hcount, by decide +kernel, hreport.trans (by decide +kernel),
    (hbelow 1 hinstance).2⟩

end Loader

end SceneLoad
