import SceneLoad.Proofs.Exhaustion
import SceneLoad.Proofs.KeySupplies

/-!
# Seeds that keep their authored key

A seed with a key of its own claims it in its turn, before its instance is attempted. Claims are not
given back : also the seed of a missing prefab keeps its key from all that come later. So in a load
that does not run out of ids, a seed of a registered prefab has its instance made under its own key
unless an earlier entity has the same key; then the key is reported and a drawn one takes its place
(`instanceKey?_load`).

That an earlier entity has the key is the whole condition. It does not take an instance under that
key (`not_keepsFreeKeys_shelfWithDouble`).
-/

namespace SceneLoad.Loader

section Keys

variable (self : Loader) (prefabs : PrefabRegistry) (supply : KeySupply)

/-- The key under which a turn makes an instance, if it makes one. -/
def instanceKey? (turn : PassState × Entity) : Option String :=
  match self.enter supply turn.1 turn.2, self.entityMarker? turn.2 with
  | some (entered, _), some marker =>
    let seed := self.seedId supply turn.1 turn.2
    match (self.outcome prefabs supply entered marker seed).result with
    | .ok _ =>
      some (Instantiator.chosenKey supply
        (claimKey (.ofMarker marker seed) entered.instanceKeys).1 entered.drawn).1
    | .error _ => none
  | _, _ => none

/-- The persistent ids of the instance of a turn. -/
def turnIds (turn : PassState × Entity) : List String :=
  (self.instanceRecords prefabs supply turn.1 turn.2).map Record.persistentId

end Keys

variable {self : Loader} {prefabs : PrefabRegistry} {supply : KeySupply}
  {state state' : PassState} {entity : Entity} {output : PassOutput} {turn : PassState × Entity}

/-- Instances are named after the key under which they are made. -/
theorem turnIds_of_instanceKey? {key : String}
    (h : self.instanceKey? prefabs supply turn = some key) :
    self.turnIds prefabs supply turn =
      (List.range (self.turnIds prefabs supply turn).length).map (nodeId key) := by
  unfold instanceKey? at h
  unfold turnIds instanceRecords
  cases henter : self.enter supply turn.1 turn.2 with
  | none =>
    rw [henter] at h
    cases h
  | some entered =>
    cases hmarker : self.entityMarker? turn.2 with
    | none =>
      rw [henter, hmarker] at h
      cases h
    | some marker =>
      rw [henter, hmarker] at h
      dsimp only at h ⊢
      split at h
      · next records hok =>
        obtain rfl := Option.some.inj h
        obtain ⟨definition, root, patching, log, -, -, -, -, hfollows⟩ :=
          instantiate_eq_ok _ _ _ _ _ hok
        rw [output_expand, hok, List.length_map]
        exact hfollows.map_persistentId
      · cases h

/-! ## Claims -/

/-- A request whose key is in use goes on without one, and this is reported. -/
theorem claimKey_of_mem (request : InstanceRequest) {used : List String} {key : String}
    (hkey : usableKey request.instanceUuid = some key) (hused : key ∈ used) :
    claimKey request used =
      ({ request with instanceUuid := none }, used,
        [reusedKey key request.seedPersistentId]) := by
  simp only [claimKey, hkey, if_pos hused]

/-- A request whose key is not in use keeps it. -/
theorem claimKey_of_notMem (request : InstanceRequest) {used : List String} {key : String}
    (hkey : usableKey request.instanceUuid = some key) (hnew : key ∉ used) :
    claimKey request used = (request, key :: used, []) := by
  simp only [claimKey, hkey, if_neg hnew]

/-- A turn leaves the entity's key in use, whatever becomes of its instance. -/
theorem mem_instanceKeys_of_step_next {marker : PrefabInstance} {key : String}
    (h : self.step prefabs supply state entity = .next state' output)
    (hmarker : self.entityMarker? entity = some marker)
    (hkey : usableKey marker.instanceUuid = some key) : key ∈ state'.instanceKeys := by
  obtain ⟨entered, own, -, hcases⟩ := step_next_cases h
  rcases hcases with ⟨hnone, -, -⟩ | ⟨marker', hmarker', rfl, -⟩
  · rw [hmarker] at hnone
    cases hnone
  · obtain rfl := Option.some.inj (hmarker.symm.trans hmarker')
    rw [instanceKeys_expand]
    by_cases hused : key ∈ entered.instanceKeys
    · rw [claimKey_of_mem (.ofMarker marker _) hkey hused]
      exact hused
    · rw [claimKey_of_notMem (.ofMarker marker _) hkey hused]
      exact List.mem_cons_self

theorem advances_of_stateAfter : ∀ {state state' : PassState} {entities : List Entity},
    self.stateAfter prefabs supply state entities = some state' → Advances state state'
  | state, state', [], h => by
    obtain rfl := Option.some.inj h
    exact ⟨Nat.le_refl _, List.Subset.refl _⟩
  | state, state', entity :: rest, h => by
    rw [stateAfter] at h
    cases hstep : self.step prefabs supply state entity with
    | stop output => simp [hstep] at h
    | next next output =>
      simp only [hstep] at h
      exact (advances_of_step_next hstep).trans (advances_of_stateAfter h)

/-- After a pass over entities their keys are in use. -/
theorem mem_instanceKeys_of_stateAfter {key : String} (husable : usableKey (some key) = some key) :
    ∀ {state state' : PassState} {entities : List Entity},
      self.stateAfter prefabs supply state entities = some state' →
        ∀ entity ∈ entities, self.AuthoredKey entity key → key ∈ state'.instanceKeys
  | state, state', first :: rest, h, entity, hmem, hauthored => by
    rw [stateAfter] at h
    cases hstep : self.step prefabs supply state first with
    | stop output => simp [hstep] at h
    | next next output =>
      simp only [hstep] at h
      rcases List.mem_cons.1 hmem with rfl | hmem
      · obtain ⟨marker, hmarker, hkey⟩ := hauthored
        have hown : usableKey marker.instanceUuid = some key := by rw [hkey, husable]
        exact (advances_of_stateAfter h).instanceKeys
          (mem_instanceKeys_of_step_next hstep hmarker hown)
      · exact mem_instanceKeys_of_stateAfter husable h entity hmem hauthored

/-! ## Loads -/

/-- In a pass that does not run out of ids, a marked entity of a registered prefab gets an instance,
under the key that is left of its request. -/
theorem instanceKey?_of_idsLast {marker : PrefabInstance}
    (hlast : IdsLast (self.turnOutput prefabs supply turn).diagnostics)
    (hmarker : self.entityMarker? turn.2 = some marker) (hprefab : marker.prefabId ∈ prefabs.ids) :
    ∃ drawn, turn.1.drawn ≤ drawn ∧
      self.instanceKey? prefabs supply turn =
        some (Instantiator.chosenKey supply
          (claimKey (.ofMarker marker (self.seedId supply turn.1 turn.2))
            turn.1.instanceKeys).1 drawn).1 ∧
      (claimKey (.ofMarker marker (self.seedId supply turn.1 turn.2))
        turn.1.instanceKeys).2.2 ⊆ (self.turnOutput prefabs supply turn).diagnostics := by
  unfold turnOutput at hlast ⊢
  cases hstep : self.step prefabs supply turn.1 turn.2 with
  | stop output =>
    rw [hstep] at hlast
    exact absurd hlast (not_idsLast_of_step_stop hstep)
  | next state' output =>
    rw [hstep] at hlast
    obtain ⟨entered, own, henter, hcases⟩ := step_next_cases hstep
    rcases hcases with ⟨hnone, -, -⟩ | ⟨marker', hmarker', -, rfl⟩
    · rw [hmarker] at hnone
      cases hnone
    · obtain rfl := Option.some.inj (hmarker.symm.trans hmarker')
      have hexpansion := (idsLast_append.1 hlast).2
      rcases outcome_cases hexpansion with ⟨hmissing, -⟩ | ⟨-, records, hok⟩
      · exact absurd hprefab hmissing
      · refine ⟨entered.drawn, (advances_enter henter).drawn, ?_, ?_⟩
        · unfold instanceKey?
          simp only [henter, hmarker, hok, instanceKeys_of_enter henter]
        · rw [← instanceKeys_of_enter henter]
          dsimp only
          rw [PassOutput.diagnostics_append, diagnostics_expand, List.append_assoc]
          exact fun report hreport => List.mem_append_right _ (List.mem_append_left _ hreport)

/-- In a load that does not run out of ids, a seed of a registered prefab with a key of its own has
its instance made under it, with the ids of that key in order, unless an earlier entity has the same
key, whatever became of the instance of that one. If one has, the key is reported, and the instance
is made under a drawn one. -/
theorem instanceKey?_load (self : Loader) (document : Document) (ids : IdAllocator)
    (supply : KeySupply) {report : Report} {log : List Diagnostic}
    {turns : List (PassState × Entity)}
    (hload : self.load document ids supply = (report, log)) (hlast : IdsLast log)
    (hturns : self.reached document.registry supply { ids } document.entities = turns) :
    turns.map Prod.snd = document.entities ∧
      report.records = turns.flatMap (self.turnRecords document.registry supply) ∧
      ∀ n turn marker key, turns[n]? = some turn → self.entityMarker? turn.2 = some marker →
        usableKey marker.instanceUuid = some key → marker.prefabId ∈ report.registeredPrefabs →
          ((∀ earlier ∈ document.entities.take n, ¬self.AuthoredKey earlier key) →
            self.instanceKey? document.registry supply turn = some key ∧
              self.turnIds document.registry supply turn =
                (List.range (self.turnIds document.registry supply turn).length).map
                  (nodeId key)) ∧
          ((∃ earlier ∈ document.entities.take n, self.AuthoredKey earlier key) →
            reusedKey key (self.seedId supply turn.1 turn.2) ∈ log ∧
              ∃ drawn, turn.1.drawn ≤ drawn ∧
                self.instanceKey? document.registry supply turn = some (supply drawn) ∧
                self.turnIds document.registry supply turn =
                  (List.range (self.turnIds document.registry supply turn).length).map
                    (nodeId (supply drawn))) := by
  subst hturns
  have hlog := log_load self document ids supply
  rw [load_eq] at hload hlog
  obtain ⟨rfl, rfl⟩ := Prod.mk.inj hload
  have hrun := (idsLast_append.1 hlast).2
  refine ⟨(seeds_run hrun).1, records_run { ids } document.entities,
    fun n turn marker key hturn hmarker hkey hprefab => ?_⟩
  have hsaid : (self.turnOutput document.registry supply turn).diagnostics ⊆ _ :=
    fun diagnostic hmem => hlog ▸ List.mem_append_right _
      (List.mem_flatMap.2 ⟨turn, List.mem_of_getElem? hturn, hmem⟩)
  obtain ⟨drawn, hdrawn, hmade, hreports⟩ :=
    instanceKey?_of_idsLast (fun diagnostic hmem => hlast diagnostic (hsaid hmem)) hmarker hprefab
  have hbefore := stateAfter_of_getElem?_reached hturn
  refine ⟨fun hfirst => ?_, fun ⟨earlier, hmem, hauthored⟩ => ?_⟩
  · have hnew := notMem_instanceKeys_of_reached hturn hfirst
    rw [claimKey_of_notMem (.ofMarker marker _) hkey hnew] at hmade
    have hchosen : self.instanceKey? document.registry supply turn = some key := by
      rw [hmade, Instantiator.chosenKey, InstanceRequest.ofMarker, hkey]
    exact ⟨hchosen, turnIds_of_instanceKey? hchosen⟩
  · have husable : usableKey (some key) = some key := eq_some_of_usableKey hkey ▸ hkey
    have hused := mem_instanceKeys_of_stateAfter husable hbefore earlier hmem hauthored
    rw [claimKey_of_mem (.ofMarker marker _) hkey hused] at hmade hreports
    exact ⟨hsaid (hreports (List.mem_singleton.2 rfl)), drawn, hdrawn, hmade,
      turnIds_of_instanceKey? hmade⟩

/-- On the shelf, the book in the middle keeps its key, and the one on the right has to give up the
key that it shares with the first. -/
theorem instanceKey?_load_shelf :
    IdsLast (librarian.load shelf (.startingAt 7) (nodeId "fresh")).2 ∧
      reusedKey "a" "right" ∈ (librarian.load shelf (.startingAt 7) (nodeId "fresh")).2 ∧
      (librarian.reached shelf.registry (nodeId "fresh") { ids := .startingAt 7 }
        shelf.entities)[1]?.bind (librarian.instanceKey? shelf.registry (nodeId "fresh")) =
          some "a-0" ∧
      (librarian.reached shelf.registry (nodeId "fresh") { ids := .startingAt 7 }
        shelf.entities).map (librarian.turnIds shelf.registry (nodeId "fresh")) =
          [["a-0", "a-1"], ["a-0-0", "a-0-1"], ["fresh-0-0", "fresh-0-1"]] := by
  have hlast : IdsLast (librarian.load shelf (.startingAt 7) (nodeId "fresh")).2 := by
    unfold IdsLast
    decide +kernel
  obtain ⟨hentities, -, hkeys⟩ :=
    instanceKey?_load librarian shelf (.startingAt 7) (nodeId "fresh") Prod.mk.eta.symm hlast rfl
  have hturn : ∀ (n : Nat) entity, shelf.entities[n]? = some entity → ∃ state,
      (librarian.reached shelf.registry (nodeId "fresh") { ids := .startingAt 7 }
        shelf.entities)[n]? = some (state, entity) := by
    intro n entity hentity
    rw [← hentities, List.getElem?_map, Option.map_eq_some_iff] at hentity
    obtain ⟨⟨state, _⟩, hturn, rfl⟩ := hentity
    exact ⟨state, hturn⟩
  obtain ⟨middle, hmiddle⟩ := hturn 1 (bookWithKey "middle" "a-0") rfl
  obtain ⟨right, hright⟩ := hturn 2 (bookWithKey "right" "a") rfl
  have hprefab : "book" ∈ shelf.registry.ids := by decide +kernel
  refine ⟨hlast, ?_, ?_, by decide +kernel⟩
  · have hshared : librarian.AuthoredKey (bookWithKey "left" "a") "a" := ⟨_, rfl, rfl⟩
    have hreported := ((hkeys 2 _ ⟨"book", 1, some "a", none⟩ "a" hright rfl rfl hprefab).2
      ⟨bookWithKey "left" "a", List.mem_cons_self, hshared⟩).1
    exact hreported
  · rw [hmiddle, Option.bind_some]
    refine ((hkeys 1 _ ⟨"book", 1, some "a-0", none⟩ "a-0" hmiddle rfl rfl hprefab).1 ?_).1
    intro earlier hmem hauthored
    obtain rfl := List.mem_singleton.1 hmem
    exact absurd (authoredKey_bookWithKey hauthored) (by decide)

/-- A seed gives up its key only to an earlier instance that was made under it. -/
def KeepsFreeKeys (self : Loader) (document : Document) (ids : IdAllocator) (supply : KeySupply) :
    Prop :=
  ∀ n turn marker key,
    (self.reached document.registry supply { ids } document.entities)[n]? = some turn →
      self.entityMarker? turn.2 = some marker → usableKey marker.instanceUuid = some key →
        marker.prefabId ∈ (self.load document ids supply).1.registeredPrefabs →
          (∀ earlier ∈ (self.reached document.registry supply { ids } document.entities).take n,
            self.instanceKey? document.registry supply earlier ≠ some key) →
              self.turnIds document.registry supply turn =
                (List.range (self.turnIds document.registry supply turn).length).map (nodeId key)

/-- The missing atlas, and a book with the atlas's key. -/
def shelfWithDouble : Document where
  entities := [atlas, bookWithKey "right" "b"]
  prefabs := shelf.prefabs

/-- No instance is made of the atlas, but the book cannot have its key. -/
theorem not_keepsFreeKeys_shelfWithDouble :
    IdsLast (librarian.load shelfWithDouble (.startingAt 7) (nodeId "fresh")).2 ∧
      ¬librarian.KeepsFreeKeys shelfWithDouble (.startingAt 7) (nodeId "fresh") := by
  refine ⟨by unfold IdsLast; decide +kernel, fun hkeeps => ?_⟩
  have hids := hkeeps 1 _ ⟨"book", 1, some "b", none⟩ "b" rfl rfl rfl (by decide +kernel)
    (by decide +kernel)
  exact absurd hids (by decide +kernel)

end SceneLoad.Loader
