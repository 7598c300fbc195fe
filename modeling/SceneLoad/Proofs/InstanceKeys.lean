import Mathlib.Data.List.Nodup
import SceneLoad.Proofs.Pass
import SceneLoad.Proofs.Preorder

/-!
# Persistent ids of instantiated records

The records of an instance are named after its key, `k-0`, `k-1` and so on. A number is written
without a dash, so the last dash of such an id ends the key. Neither a key that begins with another
one nor a key that looks like such an id can collide with it (`nodeId_injective`).

What is left is that no key serves two instances. A key is `Available` in a state of a pass if it
is authored and not claimed, or still to be drawn. A turn with an instance uses an available key up
(`key_of_step_next`), and no turn makes one available again (`Available.mono`). So all the ids of a
pass are distinct, provided that the keys it draws are distinct and none of them is authored
(`nodup_instantiated_ids`).
-/

namespace SceneLoad

/-! ## Keys and numbers -/

theorem dash_notMem_toString (n : Nat) : '-' ∉ (toString n).toList := by
  rw [Nat.toString_eq_repr, Nat.toList_repr]
  intro h
  have hdigit := Nat.isDigit_of_mem_toDigits (by decide) (by decide) h
  exact absurd hdigit (by decide)

/-- A dash before a number is the last one. -/
theorem nil_of_dash_append {more : List Char} {n n' : Nat}
    (h : '-' :: (toString n).toList = more ++ '-' :: (toString n').toList) : more = [] := by
  cases more with
  | nil => rfl
  | cons c more =>
    rw [List.cons_append, List.cons.injEq] at h
    refine absurd ?_ (dash_notMem_toString n)
    rw [h.2]
    exact List.mem_append_right _ List.mem_cons_self

/-- A key and a number can be read off the id. -/
theorem nodeId_injective {key key' : String} {n n' : Nat} (h : nodeId key n = nodeId key' n') :
    key = key' ∧ n = n' := by
  have hlists : key.toList ++ '-' :: (toString n).toList =
      key'.toList ++ '-' :: (toString n').toList := by
    simpa [nodeId] using congrArg String.toList h
  have hkey : key = key' := by
    -- Were one key longer, its dash would stand among the digits after the other.
    rcases List.append_eq_append_iff.1 hlists with ⟨more, hmore, hrest⟩ | ⟨more, hmore, hrest⟩
    · rw [nil_of_dash_append hrest, List.append_nil] at hmore
      exact (String.toList_inj.1 hmore).symm
    · rw [nil_of_dash_append hrest, List.append_nil] at hmore
      exact String.toList_inj.1 hmore
  subst hkey
  have hdigits := (List.cons.inj (List.append_cancel_left hlists)).2
  rw [Nat.toString_eq_repr, Nat.toString_eq_repr, Nat.toList_repr, Nat.toList_repr] at hdigits
  have hvalue := congrArg (fun digits => Nat.ofDigitChars 10 digits 0) hdigits
  exact ⟨rfl, by simpa using hvalue⟩

theorem nodup_map_nodeId (key : String) (count : Nat) :
    ((List.range count).map (nodeId key)).Nodup :=
  List.nodup_range.map fun _ _ h => (nodeId_injective h).2

/-- The ids of an instance are those of its key, in order. -/
theorem FollowsPreorder.map_persistentId {self : Instantiator} {prefabId key seed : String}
    {ids : IdAllocator} {root : Template} {records : List Record} {log : List Diagnostic}
    (h : FollowsPreorder self prefabId key seed ids root records log) :
    records.map Record.persistentId = (List.range records.length).map (nodeId key) := by
  refine List.ext_getElem (by simp) fun n hn _ => ?_
  rw [List.length_map] at hn
  have hkept := List.getElem?_eq_getElem (h.length_records ▸ hn)
  obtain ⟨id, -, hrecord⟩ := h.record n _ hkept
  rw [List.getElem?_eq_getElem hn, Option.some.injEq] at hrecord
  simp [hrecord]

/-- No key is given back by an attempt. -/
theorem drawn_le_instantiate (self : Instantiator) (supply : KeySupply) (request : InstanceRequest)
    (ids : IdAllocator) (drawn : Nat) :
    drawn ≤ (self.instantiate supply request ids drawn).drawn := by
  unfold Instantiator.instantiate
  cases self.prefabs.get? request.prefabId with
  | none => exact Nat.le_refl drawn
  | some definition =>
    cases usableKey request.instanceUuid with
    | none => exact Nat.le_succ drawn
    | some key => exact Nat.le_refl drawn

namespace Loader

/-! ## What a turn does to the keys -/

/-- Keys are drawn and claimed, never given back. -/
structure Advances (before after : PassState) : Prop where
  drawn : before.drawn ≤ after.drawn
  instanceKeys : before.instanceKeys ⊆ after.instanceKeys

theorem Advances.trans {first second third : PassState} (h : Advances first second)
    (h' : Advances second third) : Advances first third :=
  ⟨Nat.le_trans h.drawn h'.drawn, List.Subset.trans h.instanceKeys h'.instanceKeys⟩

theorem eq_some_of_usableKey {uuid : Option String} {key : String}
    (h : usableKey uuid = some key) : uuid = some key := by
  cases uuid with
  | none => exact h
  | some key' =>
    rw [usableKey] at h
    split_ifs at h
    exact h

/-- A request goes on with an authored key that was not claimed before, or with none. -/
theorem claimKey_cases (request : InstanceRequest) (used : List String) :
    usableKey (claimKey request used).1.instanceUuid = none ∧ (claimKey request used).2.1 = used ∨
      ∃ key, request.instanceUuid = some key ∧ key ∉ used ∧
        usableKey (claimKey request used).1.instanceUuid = some key ∧
        (claimKey request used).2.1 = key :: used := by
  unfold claimKey
  cases husable : usableKey request.instanceUuid with
  | none => exact .inl ⟨husable, rfl⟩
  | some key =>
    by_cases hused : key ∈ used
    · simp [hused, usableKey]
    · have hkey : request.instanceUuid = some key := eq_some_of_usableKey husable
      exact .inr ⟨key, hkey, hused, by simp [hused, husable], by simp [hused]⟩

variable {self : Loader} {prefabs : PrefabRegistry} {supply : KeySupply}
  {state state' : PassState} {entity : Entity} {output : PassOutput}

theorem advances_identified (self : Loader) (supply : KeySupply) (state : PassState)
    (entity : Entity) : Advances state (self.identified supply state entity) := by
  refine ⟨?_, List.Subset.refl _⟩
  show state.drawn ≤ (self.resolveId supply entity state.drawn).2
  unfold resolveId
  cases self.authoredId? entity with
  | none => exact Nat.le_succ _
  | some id => exact Nat.le_refl _

theorem advances_enter {entered : PassState} {own : List Record}
    (h : self.enter supply state entity = some (entered, own)) : Advances state entered := by
  have hidentified := advances_identified self supply state entity
  obtain ⟨ids, rfl⟩ := exists_ids_of_enter h
  exact ⟨hidentified.drawn, hidentified.instanceKeys⟩

theorem advances_expand (self : Loader) (prefabs : PrefabRegistry) (supply : KeySupply)
    (state : PassState) (marker : PrefabInstance) (seed : String) :
    Advances state (self.expand prefabs supply state marker seed).1 := by
  refine ⟨?_, ?_⟩
  · rw [drawn_expand]
    exact drawn_le_instantiate ..
  · rw [instanceKeys_expand]
    rcases claimKey_cases (.ofMarker marker seed) state.instanceKeys with
      ⟨-, hkeys⟩ | ⟨key, -, -, -, hkeys⟩
    · rw [hkeys]
      exact List.Subset.refl _
    · rw [hkeys]
      exact List.subset_cons_self ..

theorem advances_of_step_next (h : self.step prefabs supply state entity = .next state' output) :
    Advances state state' := by
  obtain ⟨entered, own, henter, hcases⟩ := step_next_cases h
  rcases hcases with ⟨-, rfl, -⟩ | ⟨marker, -, rfl, -⟩
  · exact advances_enter henter
  · exact (advances_enter henter).trans (advances_expand ..)

theorem drawn_le_drawnAfter (self : Loader) (prefabs : PrefabRegistry) (supply : KeySupply) :
    ∀ (state : PassState) (entities : List Entity),
      state.drawn ≤ self.drawnAfter prefabs supply state entities
  | _, [] => Nat.le_refl _
  | state, entity :: rest => by
    rw [drawnAfter]
    cases hstep : self.step prefabs supply state entity with
    | stop output => exact (advances_identified self supply state entity).drawn
    | next state' output =>
      exact Nat.le_trans (advances_of_step_next hstep).drawn
        (drawn_le_drawnAfter self prefabs supply state' rest)

/-! ## Keys that are left -/

/-- An entity's marker has this key. -/
def AuthoredKey (self : Loader) (entity : Entity) (key : String) : Prop :=
  ∃ marker, self.entityMarker? entity = some marker ∧ marker.instanceUuid = some key

/-- The first `total` keys of a supply are distinct, and none of them is authored. -/
structure FreshKeys (supply : KeySupply) (Authored : String → Prop) (total : Nat) : Prop where
  injective : ∀ m n, m < total → n < total → supply m = supply n → m = n
  not_authored : ∀ n, n < total → ¬Authored (supply n)

/-- A key that an instance can still get out of `total` drawn ones and the authored ones. -/
def Available (supply : KeySupply) (Authored : String → Prop) (total : Nat) (state : PassState)
    (key : String) : Prop :=
  Authored key ∧ key ∉ state.instanceKeys ∨ ∃ n, state.drawn ≤ n ∧ n < total ∧ key = supply n

variable {Authored : String → Prop} {total : Nat}

theorem Available.mono {key : String} (hadvances : Advances state state')
    (h : Available supply Authored total state' key) :
    Available supply Authored total state key := by
  rcases h with ⟨hauthored, hkey⟩ | ⟨n, hn, htotal, hkey⟩
  · exact .inl ⟨hauthored, fun hmem => hkey (hadvances.instanceKeys hmem)⟩
  · exact .inr ⟨n, Nat.le_trans hadvances.drawn hn, htotal, hkey⟩

/-- An instance uses an available key up. -/
theorem key_of_expand {marker : PrefabInstance} {seed : String}
    (hfresh : FreshKeys supply Authored total)
    (hauthored : ∀ key, marker.instanceUuid = some key → Authored key)
    (htotal : (self.expand prefabs supply state marker seed).1.drawn ≤ total) {records}
    (hrecords : (self.outcome prefabs supply state marker seed).result = .ok records) :
    ∃ key, records.map Record.persistentId = (List.range records.length).map (nodeId key) ∧
      Available supply Authored total state key ∧
      ¬Available supply Authored total (self.expand prefabs supply state marker seed).1 key := by
  obtain ⟨definition, root, patching, log, -, -, -, hdrawn, hfollows⟩ :=
    instantiate_eq_ok _ _ _ _ _ hrecords
  refine ⟨_, hfollows.map_persistentId, ?_⟩
  have hafter := drawn_expand self prefabs supply state marker seed
  have hkeys := instanceKeys_expand self prefabs supply state marker seed
  rw [outcome, hdrawn] at hafter
  rcases claimKey_cases (.ofMarker marker seed) state.instanceKeys with
    ⟨hnone, hclaimed⟩ | ⟨key, huuid, hnew, hsome, hclaimed⟩
  · -- The key is drawn : it was the first that was left, and is left no more.
    simp only [Instantiator.chosenKey, hnone] at hafter ⊢
    have hlt : state.drawn < total := by omega
    refine ⟨.inr ⟨state.drawn, Nat.le_refl _, hlt, rfl⟩, ?_⟩
    rintro (⟨hdrawnAuthored, -⟩ | ⟨n, hn, hntotal, heq⟩)
    · exact hfresh.not_authored _ hlt hdrawnAuthored
    · have hsame : state.drawn = n := hfresh.injective _ _ hlt hntotal heq
      omega
  · -- The key is authored, and claimed now.
    simp only [Instantiator.chosenKey, hsome]
    have hkey : Authored key := hauthored key huuid
    refine ⟨.inl ⟨hkey, hnew⟩, ?_⟩
    rintro (⟨-, hunclaimed⟩ | ⟨n, -, hntotal, rfl⟩)
    · rw [hkeys, hclaimed] at hunclaimed
      exact hunclaimed List.mem_cons_self
    · exact hfresh.not_authored n hntotal hkey

/-- In a turn no instance is made, or an available key is used up. -/
theorem key_of_step_next (h : self.step prefabs supply state entity = .next state' output)
    (hfresh : FreshKeys supply Authored total)
    (hauthored : ∀ key, self.AuthoredKey entity key → Authored key)
    (htotal : state'.drawn ≤ total) :
    self.instanceRecords prefabs supply state entity = [] ∨
      ∃ key n, (self.instanceRecords prefabs supply state entity).map Record.persistentId =
          (List.range n).map (nodeId key) ∧
        Available supply Authored total state key ∧
        ¬Available supply Authored total state' key := by
  obtain ⟨entered, own, henter, hcases⟩ := step_next_cases h
  rcases hcases with ⟨hmarker, -, -⟩ | ⟨marker, hmarker, rfl, -⟩
  · left
    simp only [instanceRecords, henter, hmarker]
  · simp only [instanceRecords, henter, hmarker]
    rcases records_expand self prefabs supply entered marker (self.seedId supply state entity) with
      hnone | hok
    · exact .inl hnone
    · have hmarked : ∀ key, marker.instanceUuid = some key → Authored key := fun key hkey =>
        hauthored key ⟨marker, hmarker, hkey⟩
      obtain ⟨key, hids, hbefore, hafter⟩ := key_of_expand hfresh hmarked htotal hok
      exact .inr ⟨key, _, hids, hbefore.mono (advances_enter henter), hafter⟩

/-! ## Ids of a pass -/

/-- The persistent ids of what a pass instantiates from a state on. -/
def instanceIds (self : Loader) (prefabs : PrefabRegistry) (supply : KeySupply) (state : PassState)
    (entities : List Entity) : List String :=
  (self.reached prefabs supply state entities).flatMap fun (state, entity) =>
    (self.instanceRecords prefabs supply state entity).map Record.persistentId

/-- The ids are distinct, and belong to keys that were available at the start. -/
theorem nodup_instanceIds (hfresh : FreshKeys supply Authored total) :
    ∀ (state : PassState) (entities : List Entity),
      (∀ entity ∈ entities, ∀ key, self.AuthoredKey entity key → Authored key) →
      self.drawnAfter prefabs supply state entities ≤ total →
        (self.instanceIds prefabs supply state entities).Nodup ∧
          ∀ id ∈ self.instanceIds prefabs supply state entities,
            ∃ key n, id = nodeId key n ∧ Available supply Authored total state key
  | _, [], _, _ => ⟨List.nodup_nil, by simp [instanceIds, reached]⟩
  | state, entity :: rest, hauthored, htotal => by
    have hentity := hauthored entity List.mem_cons_self
    have hrest := fun entity hmem => hauthored entity (List.mem_cons_of_mem _ hmem)
    rw [drawnAfter] at htotal
    rw [instanceIds, reached]
    cases hstep : self.step prefabs supply state entity with
    | stop output =>
      obtain ⟨henter, -⟩ := enter_of_step_stop hstep
      simp [instanceRecords, henter]
    | next state' output =>
      simp only [hstep] at htotal
      obtain ⟨hnodup, havailable⟩ := nodup_instanceIds hfresh state' rest hrest htotal
      have hadvances := advances_of_step_next hstep
      have hdrawn := drawn_le_drawnAfter self prefabs supply state' rest
      simp only [List.flatMap_cons]
      rcases key_of_step_next hstep hfresh hentity (Nat.le_trans hdrawn htotal) with
        hnone | ⟨key, count, hids, hbefore, hafter⟩
      · rw [hnone, List.map_nil, List.nil_append]
        refine ⟨hnodup, fun id hid => ?_⟩
        obtain ⟨key, n, hid, hkey⟩ := havailable id hid
        exact ⟨key, n, hid, hkey.mono hadvances⟩
      · rw [hids]
        refine ⟨List.nodup_append.2 ⟨nodup_map_nodeId key count, hnodup, ?_⟩, fun id hid => ?_⟩
        · -- An id of a later turn belongs to a key that is still available after this one.
          intro id hid id' hid' heq
          obtain ⟨n, -, rfl⟩ := List.mem_map.1 hid
          obtain ⟨key', n', rfl, hkey'⟩ := havailable id' hid'
          obtain ⟨rfl, -⟩ := nodeId_injective heq
          exact hafter hkey'
        · rcases List.mem_append.1 hid with hid | hid
          · obtain ⟨n, -, rfl⟩ := List.mem_map.1 hid
            exact ⟨key, n, rfl, hbefore⟩
          · obtain ⟨key', n, hid, hkey'⟩ := havailable id hid
            exact ⟨key', n, hid, hkey'.mono hadvances⟩

/-- The ids of all that a pass over a document instantiates are distinct, whatever keys the entities
have, if the keys that it draws are fresh. -/
theorem nodup_instantiated_ids (self : Loader) (document : Document) (ids : IdAllocator)
    (supply : KeySupply)
    (hfresh : FreshKeys supply
      (fun key => ∃ entity ∈ document.entities, self.AuthoredKey entity key)
      (self.drawnAfter document.registry supply { ids } document.entities)) :
    (self.load document ids supply).1.records =
        (self.reached document.registry supply { ids } document.entities).flatMap
          (fun (state, entity) => self.ownRecords supply state entity ++
            self.instanceRecords document.registry supply state entity) ∧
      (self.instanceIds document.registry supply { ids } document.entities).Nodup := by
  have hauthored : ∀ entity ∈ document.entities, ∀ key, self.AuthoredKey entity key →
      ∃ entity ∈ document.entities, self.AuthoredKey entity key := fun entity hmem key hkey =>
    ⟨entity, hmem, hkey⟩
  have hnodup := nodup_instanceIds hfresh { ids } document.entities hauthored (Nat.le_refl _)
  exact ⟨records_run { ids } document.entities, hnodup.1⟩

/-- A loader with the standard decoders. -/
def librarian : Loader where
  decoders := .standard

/-- A place on a shelf for a book with a key. -/
def bookWithKey (id key : String) : Entity where
  persistentId := some id
  components :=
    [(PrefabInstance.kind, .obj [("prefabId", .str "book"), ("instanceUuid", .str key)])]

/-- Three books, two of them with the same key, and the third with one of their ids as its key. -/
def shelf : Document where
  entities := [bookWithKey "left" "a", bookWithKey "middle" "a-0", bookWithKey "right" "a"]
  prefabs := [.obj [("id", .str "book"), ("root", .obj [("children", .arr [.obj []])])]]

theorem authoredKey_bookWithKey {id key key' : String}
    (h : librarian.AuthoredKey (bookWithKey id key) key') : key' = key := by
  obtain ⟨marker, hmarker, hkey'⟩ := h
  have hkey : (librarian.entityMarker? (bookWithKey id key)).bind PrefabInstance.instanceUuid =
      some key := rfl
  rw [hmarker, Option.bind_some, hkey'] at hkey
  exact Option.some.inj hkey

theorem nodup_instantiated_ids_shelf :
    ((librarian.load shelf (.startingAt 7) (nodeId "fresh")).1.records =
        (librarian.reached shelf.registry (nodeId "fresh") { ids := .startingAt 7 }
          shelf.entities).flatMap
          (fun (state, entity) => librarian.ownRecords (nodeId "fresh") state entity ++
            librarian.instanceRecords shelf.registry (nodeId "fresh") state entity) ∧
      (librarian.instanceIds shelf.registry (nodeId "fresh") { ids := .startingAt 7 }
        shelf.entities).Nodup) ∧
      librarian.instanceIds shelf.registry (nodeId "fresh") { ids := .startingAt 7 }
        shelf.entities = ["a-0", "a-1", "a-0-0", "a-0-1", "fresh-0-0", "fresh-0-1"] := by
  refine ⟨nodup_instantiated_ids librarian shelf (.startingAt 7) (nodeId "fresh") ?_, ?_⟩
  · have hdrawn : librarian.drawnAfter shelf.registry (nodeId "fresh") { ids := .startingAt 7 }
        shelf.entities = 1 := by decide +kernel
    rw [hdrawn]
    refine ⟨fun m n _ _ h => (nodeId_injective h).2, ?_⟩
    rintro n hn ⟨entity, hmem, hkey⟩
    obtain rfl := Nat.lt_one_iff.1 hn
    simp only [shelf, List.mem_cons, List.not_mem_nil, or_false] at hmem
    rcases hmem with rfl | rfl | rfl
    · exact absurd (authoredKey_bookWithKey hkey) (by decide)
    · exact absurd (authoredKey_bookWithKey hkey) (by decide)
    · exact absurd (authoredKey_bookWithKey hkey) (by decide)
  · decide +kernel

end Loader

end SceneLoad
