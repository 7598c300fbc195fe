import SceneLoad.Proofs.InstanceKeys
import SceneLoad.Proofs.RuntimeIds

/-!
# Passes from different starting ids

Where the runtime ids start matters only when they run out. Two passes over the same entities, one
from `s` on and one from `t` on, go through the same turns as long as both have ids : the next id of
the one is as far from `s` as that of the other from `t` (`IdAllocator.Aligned`). If the first pass
runs out and the second one does not, the first has lost an entity's own record or a whole instance
by then, and records nothing from there on. So its records are the first ones of the second pass, up
to the difference of the ids, and end where an own record or an instance ends
(`records_load_startingAt`).
-/

namespace SceneLoad

/-- The record with its runtime id counted from `first` on. -/
def Record.rebased (first : UInt64) (record : Record) : Record :=
  { record with runtimeId := ⟨record.runtimeId.value - first⟩ }

namespace IdAllocator

/-- The next ids, if both allocators have one, are equally far from `s` and from `t`. -/
def Aligned (s t : UInt64) (left right : IdAllocator) : Prop :=
  ∀ x y, left.next = some x → right.next = some y → x - s = y - t

variable {s t : UInt64} {left right left' right' : IdAllocator} {id id' : EntityId}

theorem aligned_startingAt (s t : UInt64) : Aligned s t (startingAt s) (startingAt t) := by
  intro x y hx hy
  obtain rfl : s = x := Option.some.inj hx
  obtain rfl : t = y := Option.some.inj hy
  rw [UInt64.sub_self, UInt64.sub_self]

/-- The id that is handed out was the next one, and the one after it follows. -/
theorem next_of_allocate (h : left.allocate = some (id, left')) :
    left.next = some id.value ∧ ∀ x, left'.next = some x → x = id.value + 1 := by
  unfold allocate at h
  split at h
  · cases h
  · next value hvalue =>
    obtain ⟨rfl, rfl⟩ := Prod.mk.inj (Option.some.inj h)
    refine ⟨hvalue, fun x hx => ?_⟩
    by_cases hlast : value = last
    · rw [if_pos hlast] at hx
      cases hx
    · rw [if_neg hlast] at hx
      exact (Option.some.inj hx).symm

/-- Allocators that hand out one id each stay aligned. -/
theorem Aligned.allocate (h : Aligned s t left right) (hleft : left.allocate = some (id, left'))
    (hright : right.allocate = some (id', right')) :
    id.value - s = id'.value - t ∧ Aligned s t left' right' := by
  obtain ⟨hid, hnext⟩ := next_of_allocate hleft
  obtain ⟨hid', hnext'⟩ := next_of_allocate hright
  have hsame : id.value - s = id'.value - t := h _ _ hid hid'
  refine ⟨hsame, fun x y hx hy => ?_⟩
  have hx' : x = id.value + 1 := hnext x hx
  have hy' : y = id'.value + 1 := hnext' y hy
  rw [hx', hy']
  grind

end IdAllocator

open IdAllocator

variable {s t : UInt64}

/-! ## Instances -/

/-- A walk that is complete from the one allocator is the same from the other, or cut short. -/
theorem stamp_aligned (self : Instantiator) (prefabId key : String) :
    ∀ (visits : List Visit) {left right : IdAllocator}, Aligned s t left right →
      (stamp self prefabId key right visits).complete = true →
      (stamp self prefabId key left visits).complete = true →
        (stamp self prefabId key left visits).records.map (Record.rebased s) =
            (stamp self prefabId key right visits).records.map (Record.rebased t) ∧
          Aligned s t (stamp self prefabId key left visits).ids
            (stamp self prefabId key right visits).ids
  | [], _, _, h, _, _ => ⟨rfl, h⟩
  | .tooDeep _ :: rest, _, _, h, hright, hleft =>
    stamp_aligned self prefabId key rest h hright hleft
  | .nested _ :: rest, _, _, h, hright, hleft =>
    stamp_aligned self prefabId key rest h hright hleft
  | .kept item number :: rest, left, right, h, hright, hleft => by
    rw [stamp] at hright hleft
    rw [stamp, stamp]
    cases hids : left.allocate with
    | none => simp [hids] at hleft
    | some next =>
      cases hids' : right.allocate with
      | none => simp [hids'] at hright
      | some next' =>
        simp only [hids] at hleft
        simp only [hids'] at hright
        obtain ⟨hid, haligned⟩ := h.allocate hids hids'
        obtain ⟨hrecords, hafter⟩ := stamp_aligned self prefabId key rest haligned hright hleft
        have hfirst : ∀ persistentId parent,
            (Instantiator.recordOf self.decoders item.node next.1 persistentId parent).1.rebased s =
              (Instantiator.recordOf self.decoders item.node next'.1 persistentId
                parent).1.rebased t := by
          intro persistentId parent
          simp only [Record.rebased, Instantiator.recordOf, hid]
        refine ⟨?_, hafter⟩
        simp only [Walk.reporting, Walk.recording, List.map_cons, hrecords, hfirst]

/-- An attempt that does not run out of ids is the same from the other allocator, or leaves that one
exhausted. -/
theorem instantiate_aligned (self : Instantiator) (supply : KeySupply) (request : InstanceRequest)
    {left right : IdAllocator} (drawn : Nat) (h : Aligned s t left right)
    (hright : ∀ prefabId seed,
      (self.instantiate supply request right drawn).result ≠ .error (.idsExhausted prefabId seed)) :
    (self.instantiate supply request left drawn).drawn =
        (self.instantiate supply request right drawn).drawn ∧
      (((self.instantiate supply request left drawn).result.toOption.getD []).map
            (Record.rebased s) =
          ((self.instantiate supply request right drawn).result.toOption.getD []).map
            (Record.rebased t) ∧
        Aligned s t (self.instantiate supply request left drawn).ids
          (self.instantiate supply request right drawn).ids ∨
        (self.instantiate supply request left drawn).result.toOption.getD [] = [] ∧
          (self.instantiate supply request left drawn).ids.next = none) := by
  unfold Instantiator.instantiate at hright ⊢
  cases hget : self.prefabs.get? request.prefabId with
  | none => exact ⟨rfl, .inl ⟨rfl, h⟩⟩
  | some definition =>
    simp only [hget, walk_eq_stamp] at hright ⊢
    refine ⟨trivial, ?_⟩
    split_ifs at hright with hcomplete
    · split_ifs with hleft
      · exact .inl (stamp_aligned self definition.id _ _ h hcomplete hleft)
      · have hnone := exhausted_stamp self definition.id _ _ left (Bool.eq_false_iff.2 hleft)
        exact .inr ⟨rfl, hnone⟩
    · exact absurd rfl (hright definition.id request.seedPersistentId)

namespace Loader

variable {self : Loader} {prefabs : PrefabRegistry} {supply : KeySupply}
  {left right : PassState} {entity : Entity}

/-! ## Turns -/

/-- Two passes have come equally far. What ids are in use does not matter to the records. -/
structure InStep (s t : UInt64) (left right : PassState) : Prop where
  ids : Aligned s t left.ids right.ids
  drawn : left.drawn = right.drawn
  instanceKeys : left.instanceKeys = right.instanceKeys

theorem seedId_inStep (self : Loader) (supply : KeySupply) (h : InStep s t left right)
    (entity : Entity) :
    self.seedId supply left entity = self.seedId supply right entity := by
  unfold seedId
  rw [h.drawn]

/-- An entity that enters the one pass enters the other with the same record, or ends that pass. -/
theorem enter_inStep (h : InStep s t left right) {entered' : PassState} {own' : List Record}
    (hright : self.enter supply right entity = some (entered', own')) :
    self.enter supply left entity = none ∨
      ∃ entered own, self.enter supply left entity = some (entered, own) ∧
        own.map (Record.rebased s) = own'.map (Record.rebased t) ∧ InStep s t entered entered' := by
  have hseed := seedId_inStep self supply h entity
  have hdrawn : (self.identified supply left entity).drawn =
      (self.identified supply right entity).drawn := by
    show (self.resolveId supply entity left.drawn).2 = (self.resolveId supply entity right.drawn).2
    rw [h.drawn]
  unfold enter at hright ⊢
  rw [hseed]
  split_ifs at hright ⊢
  · obtain ⟨⟨id', ids'⟩, hallocate', hentered'⟩ := Option.map_eq_some_iff.1 hright
    obtain ⟨rfl, rfl⟩ := Prod.mk.inj hentered'
    cases hallocate : left.ids.allocate with
    | none => exact .inl rfl
    | some next =>
      obtain ⟨hid, haligned⟩ := h.ids.allocate hallocate hallocate'
      refine .inr ⟨_, _, rfl, ?_, haligned, hdrawn, h.instanceKeys⟩
      simp only [List.map_cons, List.map_nil, Record.rebased, seedRecord, hid]
  · obtain ⟨rfl, rfl⟩ := Prod.mk.inj (Option.some.inj hright)
    exact .inr ⟨_, _, rfl, rfl, h.ids, hdrawn, h.instanceKeys⟩

/-- An instance that does not run out of ids in the one pass is the same in the other, or leaves
that without ids. -/
theorem expand_inStep (h : InStep s t left right) (marker : PrefabInstance) (seed : String)
    (hright : ∀ prefabId seed', (self.outcome prefabs supply right marker seed).result ≠
      .error (.idsExhausted prefabId seed')) :
    (self.expand prefabs supply left marker seed).2.records.map (Record.rebased s) =
          (self.expand prefabs supply right marker seed).2.records.map (Record.rebased t) ∧
        InStep s t (self.expand prefabs supply left marker seed).1
          (self.expand prefabs supply right marker seed).1 ∨
      (self.expand prefabs supply left marker seed).2.records = [] ∧
        (self.expand prefabs supply left marker seed).1.ids.next = none := by
  have hattempt : self.outcome prefabs supply left marker seed =
      Instantiator.instantiate
        { prefabs, decoders := self.decoders, maxDepth := self.config.maxPrefabDepth } supply
        (claimKey (.ofMarker marker seed) right.instanceKeys).1 left.ids right.drawn := by
    unfold outcome
    rw [h.drawn, h.instanceKeys]
  obtain ⟨hdrawn, hcases⟩ := instantiate_aligned _ supply _ right.drawn h.ids hright
  rw [records_expand_eq, records_expand_eq, ids_expand, hattempt]
  rcases hcases with ⟨hrecords, haligned⟩ | hfailed
  · refine .inl ⟨hrecords, ?_, ?_, ?_⟩
    · rw [ids_expand, ids_expand, hattempt]
      exact haligned
    · rw [drawn_expand, drawn_expand, hattempt]
      exact hdrawn
    · rw [instanceKeys_expand, instanceKeys_expand, h.instanceKeys]
  · exact .inr hfailed

/-! ## Passes -/

/-- The records of a pass in the parts that are made at once : own records and instances. -/
def blocks (self : Loader) (prefabs : PrefabRegistry) (supply : KeySupply) (state : PassState)
    (entities : List Entity) : List (List Record) :=
  (self.reached prefabs supply state entities).flatMap fun (state, entity) =>
    [self.ownRecords supply state entity, self.instanceRecords prefabs supply state entity]

theorem blocks_cons_of_step_next {state' : PassState} {output : PassOutput} (rest : List Entity)
    (h : self.step prefabs supply right entity = .next state' output) :
    self.blocks prefabs supply right (entity :: rest) =
      self.ownRecords supply right entity :: self.instanceRecords prefabs supply right entity ::
        self.blocks prefabs supply state' rest := by
  unfold blocks
  rw [reached, h]
  rfl

theorem flatten_blocks (state : PassState) (entities : List Entity) :
    (self.blocks prefabs supply state entities).flatten =
      (self.run prefabs supply state entities).records := by
  rw [records_run, blocks, List.flatten_eq_flatMap, List.flatMap_assoc]
  simp

/-- Without ids nothing is recorded. -/
theorem records_run_of_exhausted (self : Loader) (prefabs : PrefabRegistry) (supply : KeySupply)
    {state : PassState} (h : state.ids.next = none) (entities : List Entity) :
    (self.run prefabs supply state entities).records = [] := by
  obtain ⟨after, between, hissues, -⟩ := spends_run self prefabs supply state entities
  have hids := (hissues.of_exhausted h).1
  exact List.map_eq_nil_iff.1 hids

/-- The records of a pass are the first blocks of one that has come equally far and does not run out
of ids. -/
theorem records_run_inStep : ∀ {left right : PassState} {entities : List Entity},
    InStep s t left right →
      IdsLast (self.run prefabs supply right entities).diagnostics →
        ∃ n, (self.run prefabs supply left entities).records.map (Record.rebased s) =
          ((self.blocks prefabs supply right entities).take n).flatten.map (Record.rebased t)
  | _, _, [], _, _ => ⟨0, rfl⟩
  | left, right, entity :: rest, h, hlast => by
    obtain ⟨right', output', hstep', hturn, hrest⟩ := step_of_idsLast hlast
    obtain ⟨entered', own', henter', hcases'⟩ := step_next_cases hstep'
    have hseed := seedId_inStep self supply h entity
    have hown' : self.ownRecords supply right entity = own' := by
      rw [ownRecords, henter']
    rw [blocks_cons_of_step_next rest hstep', hown', run, step_eq, hseed]
    rcases enter_inStep h henter' with henter | ⟨entered, own, henter, hown, hentered⟩
    · rw [henter]
      exact ⟨0, rfl⟩
    · rw [henter]
      rcases hcases' with ⟨hmarker, rfl, -⟩ | ⟨marker, hmarker, rfl, rfl⟩
      · obtain ⟨n, hn⟩ := records_run_inStep hentered hrest
        have hinstance : self.instanceRecords prefabs supply right entity = [] := by
          rw [instanceRecords, henter', hmarker]
        refine ⟨n + 2, ?_⟩
        simp only [hmarker, expandMarker, PassOutput.records_append, List.map_append, hown, hn,
          hinstance, List.take_succ_cons, List.flatten_cons, List.nil_append]
      · have hexpansion := (idsLast_append.1 hturn).2
        have hinstance : self.instanceRecords prefabs supply right entity =
            (self.expand prefabs supply entered' marker
              (self.seedId supply right entity)).2.records := by
          rw [instanceRecords, henter', hmarker]
        rcases expand_inStep hentered marker (self.seedId supply right entity)
            (outcome_of_idsLast hexpansion) with ⟨hrecords, hafter⟩ | ⟨hrecords, hexhausted⟩
        · obtain ⟨n, hn⟩ := records_run_inStep hafter hrest
          refine ⟨n + 2, ?_⟩
          simp only [hmarker, expandMarker, PassOutput.records_append, List.map_append, hown,
            hrecords, hn, hinstance, List.take_succ_cons, List.flatten_cons, List.append_assoc]
        · -- The instance is lost as a whole, and so is all that follows.
          have hnone := records_run_of_exhausted self prefabs supply hexhausted rest
          refine ⟨1, ?_⟩
          simp only [hmarker, expandMarker, PassOutput.records_append, hown, hrecords, hnone,
            List.take_succ_cons, List.take_zero, List.flatten_cons, List.flatten_nil,
            List.append_nil]

/-- If a pass from `t` on does not run out of ids, a pass from `s` on has its first records, with
ids counted from `s` instead of `t`, and stops after an entity's own record or after an instance. -/
theorem records_load_startingAt (self : Loader) (document : Document) (supply : KeySupply)
    (s t : UInt64) (hlast : IdsLast (self.load document (.startingAt t) supply).2) :
    (self.load document (.startingAt s) supply).1.records.map (Record.rebased s) <+:
        (self.load document (.startingAt t) supply).1.records.map (Record.rebased t) ∧
      (self.load document (.startingAt t) supply).1.records =
        (self.blocks document.registry supply { ids := .startingAt t }
          document.entities).flatten ∧
      ∃ n, (self.load document (.startingAt s) supply).1.records.map (Record.rebased s) =
        ((self.blocks document.registry supply { ids := .startingAt t }
          document.entities).take n).flatten.map (Record.rebased t) := by
  have hstart : InStep s t { ids := .startingAt s } { ids := .startingAt t } :=
    ⟨aligned_startingAt s t, rfl, rfl⟩
  have hblocks : (self.load document (.startingAt t) supply).1.records =
      (self.blocks document.registry supply { ids := .startingAt t } document.entities).flatten :=
    (flatten_blocks _ _).symm
  have hrun : IdsLast (self.run document.registry supply { ids := .startingAt t }
      document.entities).diagnostics := (idsLast_append.1 hlast).2
  obtain ⟨n, hn⟩ := records_run_inStep hstart hrun
  have hrecords : (self.load document (.startingAt s) supply).1.records.map (Record.rebased s) =
      ((self.blocks document.registry supply { ids := .startingAt t }
        document.entities).take n).flatten.map (Record.rebased t) := hn
  refine ⟨?_, hblocks, n, hrecords⟩
  rw [hrecords, hblocks]
  refine List.IsPrefix.map _ ?_
  conv_rhs => rw [← List.take_append_drop n (self.blocks ..), List.flatten_append]
  exact List.prefix_append _ _

/-- With four ids left, the second of three books on a shelf gets its place and nothing else. -/
theorem records_load_startingAt_shelf :
    IdsLast (librarian.load shelf (.startingAt 7) (nodeId "fresh")).2 ∧
      (librarian.load shelf (.startingAt (last - 3)) (nodeId "fresh")).1.records.length = 4 ∧
      (librarian.load shelf (.startingAt 7) (nodeId "fresh")).1.records.length = 9 ∧
      (librarian.load shelf (.startingAt (last - 3)) (nodeId "fresh")).1.records.map
          (Record.rebased (last - 3)) <+:
        (librarian.load shelf (.startingAt 7) (nodeId "fresh")).1.records.map
          (Record.rebased 7) := by
  have hlast : IdsLast (librarian.load shelf (.startingAt 7) (nodeId "fresh")).2 := by
    unfold IdsLast
    decide +kernel
  exact ⟨hlast, by decide +kernel, by decide +kernel,
    (records_load_startingAt librarian shelf (nodeId "fresh") (last - 3) 7 hlast).1⟩

end Loader

end SceneLoad
