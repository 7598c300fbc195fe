import Mathlib.Data.Finset.Card
import Mathlib.Data.Finset.Dedup
import SceneLoad.Proofs.ReportsByCode

/-!
# Reports of ids in use

A pass reports an id that is in use when it comes to it, whether it belongs to an entity or to an
instantiated node. Ids in use are carried along in one list, which every record adds its id to. So
the reports count the ids that occur again (`repeats`), and these are as many as there are records
more than ids (`repeats_add_card`). `reusedIds_load` says so of a pass.

Decoders may put anything into the log, also what reads like such a report. What they say of the
components is counted apart, and the standard decoders say nothing of the kind (`quiet_standard`).
-/

namespace SceneLoad

/-! ## Counting -/

/-- The report of an entity's or an instantiated node's id that is in use. -/
def Diagnostic.isReusedId (diagnostic : Diagnostic) : Bool :=
  match diagnostic.entity with
  | some id => diagnostic = Loader.reusedId id ∨ diagnostic = Loader.collidingId id
  | none => false

namespace Diagnostic

@[simp] theorem isReusedId_reusedId (id : String) : (Loader.reusedId id).isReusedId = true := by
  simp [isReusedId, Loader.reusedId]

@[simp] theorem isReusedId_collidingId (id : String) :
    (Loader.collidingId id).isReusedId = true := by
  simp [isReusedId, Loader.collidingId]

theorem code_of_isReusedId {diagnostic : Diagnostic} (h : diagnostic.isReusedId = true) :
    diagnostic.code = .duplicatePersistentId := by
  unfold isReusedId at h
  split at h
  · rcases of_decide_eq_true h with h | h
    · rw [h, Loader.reusedId]
    · rw [h, Loader.collidingId]
  · cases h

/-- Reports of instance keys begin with other words. -/
theorem isReusedId_reusedKey (key seed : String) :
    (Loader.reusedKey key seed).isReusedId = false := by
  have hreused : (Loader.reusedKey key seed).message ≠ (Loader.reusedId seed).message := by
    intro h
    have hchar := congrArg (fun text => text.toList[0]?) h
    simp [Loader.reusedKey, Loader.reusedId] at hchar
  have hcolliding : (Loader.reusedKey key seed).message ≠ (Loader.collidingId seed).message := by
    intro h
    have hchar := congrArg (fun text => text.toList[6]?) h
    simp [Loader.reusedKey, Loader.collidingId] at hchar
  have hneither : ¬(Loader.reusedKey key seed = Loader.reusedId seed ∨
      Loader.reusedKey key seed = Loader.collidingId seed) := by
    rintro (h | h)
    · exact hreused (congrArg Diagnostic.message h)
    · exact hcolliding (congrArg Diagnostic.message h)
  exact decide_eq_false hneither

/-- Only reports with their code count. -/
theorem countP_isReusedId_ofCode (log : List Diagnostic) :
    (ofCode .duplicatePersistentId log).countP isReusedId = log.countP isReusedId := by
  rw [ofCode, List.countP_filter]
  refine List.countP_congr fun diagnostic _ => ?_
  simpa using code_of_isReusedId

theorem countP_isReusedId_eq_zero {log : List Diagnostic}
    (h : ofCode .duplicatePersistentId log = []) : log.countP isReusedId = 0 := by
  rw [← countP_isReusedId_ofCode, h, List.countP_nil]

end Diagnostic

open Diagnostic

namespace Loader

/-- How many of the ids are in use when their turn comes. -/
def repeats : (used : List String) → List String → Nat
  | _, [] => 0
  | used, id :: rest => (if id ∈ used then 1 else 0) + repeats (claim id used) rest

/-- Adds ids to those in use. -/
def claimAll (used ids : List String) : List String := ids.foldl (fun used id => claim id used) used

theorem mem_claim {id id' : String} {used : List String} :
    id ∈ claim id' used ↔ id = id' ∨ id ∈ used := by
  unfold claim
  split_ifs with h
  · refine ⟨.inr, ?_⟩
    rintro (rfl | hmem)
    · exact h
    · exact hmem
  · exact List.mem_cons

theorem repeats_append : ∀ (used ids ids' : List String),
    repeats used (ids ++ ids') = repeats used ids + repeats (claimAll used ids) ids'
  | used, [], ids' => by simp [repeats, claimAll]
  | used, id :: rest, ids' => by
    rw [List.cons_append, repeats, repeats, repeats_append (claim id used) rest ids', Nat.add_assoc]
    rfl

/-- Every id is in use, or occurs again, or is counted once. -/
theorem repeats_add_card : ∀ (used ids : List String),
    repeats used ids + (ids.toFinset \ used.toFinset).card = ids.length
  | used, [] => by simp [repeats]
  | used, id :: rest => by
    have ih := repeats_add_card (claim id used) rest
    have hclaim : (claim id used).toFinset = insert id used.toFinset := by
      ext id'
      simp [mem_claim]
    rw [hclaim] at ih
    rw [repeats, List.toFinset_cons, List.length_cons]
    by_cases hmem : id ∈ used
    · have hused : id ∈ used.toFinset := List.mem_toFinset.2 hmem
      rw [Finset.insert_eq_of_mem hused] at ih
      rw [if_pos hmem, Finset.insert_sdiff_of_mem _ hused]
      omega
    · have hnew : insert id rest.toFinset \ used.toFinset =
          insert id (rest.toFinset \ insert id used.toFinset) := by
        ext id'
        by_cases heq : id' = id
        · simp [heq, hmem]
        · simp [heq]
      rw [if_neg hmem, hnew, Finset.card_insert_of_notMem (by simp)]
      omega

theorem repeats_nil (ids : List String) : repeats [] ids = ids.length - ids.toFinset.card := by
  have h := repeats_add_card [] ids
  rw [List.toFinset_nil, Finset.sdiff_empty] at h
  omega

theorem nodup_iff_repeats_nil (ids : List String) : ids.Nodup ↔ repeats [] ids = 0 := by
  have h := repeats_add_card [] ids
  rw [List.toFinset_nil, Finset.sdiff_empty, List.card_toFinset] at h
  constructor
  · intro hnodup
    rw [hnodup.dedup] at h
    omega
  · intro hzero
    have hlength : ids.dedup.length = ids.length := by omega
    rw [← List.dedup_eq_self]
    exact (List.dedup_sublist ids).eq_of_length hlength

end Loader

/-- An attempt at an instance reports ids in use only through the decoders. -/
theorem Instantiator.countP_instantiate (self : Instantiator) (supply : KeySupply)
    (request : InstanceRequest) (ids : IdAllocator) (drawn : Nat) :
    (self.instantiate supply request ids drawn).diagnostics.countP isReusedId =
      (self.componentReports supply request ids drawn).countP isReusedId := by
  rw [← countP_isReusedId_ofCode, ofCode_instantiate (by decide), countP_isReusedId_ofCode]

theorem countP_error (error : InstanceError) : [error.diagnostic].countP isReusedId = 0 := by
  refine countP_isReusedId_eq_zero (ofCode_eq_nil_iff.2 (List.forall_mem_singleton.2 ?_))
  cases error <;> exact DiagnosticCode.noConfusion

namespace Loader

/-! ## Turns and passes -/

theorem claimRecords_fst : ∀ (seen : List String) (records : List Record),
    (claimRecords seen records).1 = claimAll seen (records.map Record.persistentId)
  | _, [] => rfl
  | seen, record :: rest => by
    rw [claimRecords]
    split_ifs <;> exact claimRecords_fst (claim record.persistentId seen) rest

/-- Each record of an instance whose id is in use is reported. -/
theorem countP_claimRecords : ∀ (seen : List String) (records : List Record),
    (claimRecords seen records).2.countP isReusedId =
      repeats seen (records.map Record.persistentId)
  | _, [] => rfl
  | seen, record :: rest => by
    have ih := countP_claimRecords (claim record.persistentId seen) rest
    rw [claimRecords, List.map_cons, repeats, ← ih]
    split_ifs
    · rw [List.countP_cons_of_pos (by simp), Nat.add_comm]
    · rw [Nat.zero_add]

theorem countP_claimKey (request : InstanceRequest) (used : List String) :
    (claimKey request used).2.2.countP isReusedId = 0 := by
  unfold claimKey
  split
  · rfl
  · split_ifs
    · simp [isReusedId_reusedKey]
    · rfl

variable {self : Loader} {prefabs : PrefabRegistry} {supply : KeySupply}
  {state state' : PassState} {entity : Entity} {output : PassOutput}

/-- An instance reports its ids that are in use, and claims them all. -/
theorem repeats_expand (self : Loader) (prefabs : PrefabRegistry) (supply : KeySupply)
    (state : PassState) (marker : PrefabInstance) (seed : String) :
    (self.expand prefabs supply state marker seed).2.diagnostics.countP isReusedId =
        repeats state.seen
            ((self.expand prefabs supply state marker seed).2.records.map Record.persistentId) +
          (self.outcome prefabs supply state marker seed).diagnostics.countP isReusedId ∧
      (self.expand prefabs supply state marker seed).1.seen =
        claimAll state.seen
          ((self.expand prefabs supply state marker seed).2.records.map Record.persistentId) := by
  rw [diagnostics_expand, seen_expand, records_expand_eq, List.countP_append, List.countP_append,
    countP_claimKey]
  cases (self.outcome prefabs supply state marker seed).result with
  | ok records =>
    refine ⟨?_, claimRecords_fst state.seen records⟩
    rw [countP_claimRecords, Nat.zero_add, Nat.add_comm]
    rfl
  | error error =>
    refine ⟨?_, rfl⟩
    rw [countP_error]
    simp [Except.toOption, repeats]

theorem countP_seedDiagnostics (self : Loader) (supply : KeySupply) (state : PassState)
    (entity : Entity) :
    (self.seedDiagnostics supply state entity).countP isReusedId =
      repeats state.seen [self.seedId supply state entity] +
        (self.decoders.decodeEntries (self.seedId supply state entity)
          entity.components).diagnostics.countP isReusedId := by
  unfold seedDiagnostics
  dsimp only
  rw [List.countP_append, repeats]
  split_ifs <;> simp [repeats]

/-- An entity that becomes a record claims its id. -/
theorem claims_enter {entered : PassState} {own : List Record}
    (hemit : self.config.emitSeedRecords = true)
    (h : self.enter supply state entity = some (entered, own)) :
    own.map Record.persistentId = [self.seedId supply state entity] ∧
      entered.seen = claimAll state.seen [self.seedId supply state entity] := by
  rcases enter_cases h with ⟨-, id, ids, -, rfl, rfl⟩ | ⟨hnot, -⟩
  · exact ⟨rfl, rfl⟩
  · rw [hemit] at hnot
    cases hnot

theorem claimAll_append (used ids ids' : List String) :
    claimAll used (ids ++ ids') = claimAll (claimAll used ids) ids' :=
  List.foldl_append

/-- A turn reports those of its ids that are in use, and claims them all. -/
theorem repeats_of_step_next (hemit : self.config.emitSeedRecords = true)
    (h : self.step prefabs supply state entity = .next state' output) :
    output.diagnostics.countP isReusedId =
        repeats state.seen (output.records.map Record.persistentId) +
          (self.componentReports prefabs supply state entity).countP isReusedId ∧
      state'.seen = claimAll state.seen (output.records.map Record.persistentId) := by
  obtain ⟨entered, own, henter, hcases⟩ := step_next_cases h
  obtain ⟨hown, hseen⟩ := claims_enter hemit henter
  have hseed := countP_seedDiagnostics self supply state entity
  unfold componentReports
  rcases hcases with ⟨hmarker, rfl, rfl⟩ | ⟨marker, hmarker, rfl, rfl⟩
  · simp only [seedOutput, henter, hmarker, hown, hseed, hseen, List.append_nil, and_self]
  · obtain ⟨hcount, hclaimed⟩ := repeats_expand self prefabs supply entered marker
      (self.seedId supply state entity)
    rw [outcome, Instantiator.countP_instantiate] at hcount
    simp only [seedOutput, PassOutput.records_append, PassOutput.diagnostics_append, henter,
      hmarker, List.map_append, List.countP_append, hown, hseed, hcount, hclaimed, hseen,
      repeats_append, claimAll_append, and_true]
    omega

/-- Every entity that a pass gets to gets its runtime id. -/
def IdsSuffice (self : Loader) (prefabs : PrefabRegistry) (supply : KeySupply) (state : PassState)
    (entities : List Entity) : Prop :=
  ∀ turn ∈ self.reached prefabs supply state entities, (self.enter supply turn.1 turn.2).isSome

/-- A pass reports those of its ids that are in use. -/
theorem repeats_run (hemit : self.config.emitSeedRecords = true) :
    ∀ (state : PassState) (entities : List Entity),
      self.IdsSuffice prefabs supply state entities →
        (self.run prefabs supply state entities).diagnostics.countP isReusedId =
          repeats state.seen
              ((self.run prefabs supply state entities).records.map Record.persistentId) +
            ((self.reached prefabs supply state entities).flatMap fun (state, entity) =>
              self.componentReports prefabs supply state entity).countP isReusedId
  | _, [], _ => rfl
  | state, entity :: rest, hids => by
    rw [IdsSuffice, reached] at hids
    rw [run, reached]
    cases hstep : self.step prefabs supply state entity with
    | stop output =>
      obtain ⟨henter, -⟩ := enter_of_step_stop hstep
      have hentered := hids (state, entity) List.mem_cons_self
      simp [henter] at hentered
    | next state' output =>
      rw [hstep] at hids
      have hrest := repeats_run hemit state' rest fun turn hmem =>
        hids turn (List.mem_cons_of_mem _ hmem)
      obtain ⟨hcount, hseen⟩ := repeats_of_step_next hemit hstep
      rw [hseen] at hrest
      simp only [PassOutput.records_append, PassOutput.diagnostics_append, List.map_append,
        List.flatMap_cons, List.countP_append, hcount, hrest, repeats_append]
      omega

end Loader

/-! ## Decoders that say nothing of the kind -/

/-- No decoder reports an id that is in use. -/
def DecoderRegistry.Quiet (registry : DecoderRegistry) : Prop :=
  registry.Silent .duplicatePersistentId

theorem quiet_standard : DecoderRegistry.standard.Quiet :=
  silent_standard DiagnosticCode.noConfusion

namespace Loader

/-- What is reported of the components in a pass over a document. -/
def allComponentReports (self : Loader) (document : Document) (ids : IdAllocator)
    (supply : KeySupply) : List Diagnostic :=
  (self.reached document.registry supply { ids } document.entities).flatMap
    fun (state, entity) => self.componentReports document.registry supply state entity

theorem repeats_load {self : Loader} {document : Document} {ids : IdAllocator} {supply : KeySupply}
    {report : Report} {log : List Diagnostic}
    (hload : self.load document ids supply = (report, log))
    (hemit : self.config.emitSeedRecords = true)
    (hids : self.IdsSuffice document.registry supply { ids } document.entities) :
    log.countP isReusedId =
      repeats [] (report.records.map Record.persistentId) +
        (self.allComponentReports document ids supply).countP isReusedId := by
  rw [load_eq] at hload
  obtain ⟨rfl, rfl⟩ := Prod.mk.inj hload
  rw [List.countP_append, countP_isReusedId_eq_zero (ofCode_registration (by decide) _),
    Nat.zero_add]
  exact repeats_run hemit { ids } document.entities hids

/-- With records for all entities, and ids enough for them, a pass reports an id in use once for
each record more than there are ids. So the ids of the records are distinct exactly if there is no
such report. What decoders themselves may say in these words comes on top. -/
theorem reusedIds_load (self : Loader) (document : Document) (ids : IdAllocator)
    (supply : KeySupply) {report : Report} {log : List Diagnostic}
    (hload : self.load document ids supply = (report, log))
    (hemit : self.config.emitSeedRecords = true)
    (hids : self.IdsSuffice document.registry supply { ids } document.entities) :
    log.countP isReusedId =
        (report.records.length - (report.records.map Record.persistentId).toFinset.card) +
          (self.allComponentReports document ids supply).countP isReusedId ∧
      ((report.records.map Record.persistentId).Nodup ↔
        log.countP isReusedId =
          (self.allComponentReports document ids supply).countP isReusedId) ∧
      (self.decoders.Quiet →
        log.countP isReusedId =
            report.records.length - (report.records.map Record.persistentId).toFinset.card ∧
          ((report.records.map Record.persistentId).Nodup ↔
            ∀ diagnostic ∈ log, ¬diagnostic.isReusedId)) := by
  have hcount := repeats_load hload hemit hids
  have hrepeats := repeats_nil (report.records.map Record.persistentId)
  have hnodup := nodup_iff_repeats_nil (report.records.map Record.persistentId)
  rw [List.length_map] at hrepeats
  refine ⟨by rw [hcount, hrepeats], by rw [hnodup, hcount]; omega, fun hquiet => ?_⟩
  have hsilent : (self.allComponentReports document ids supply).countP isReusedId = 0 := by
    refine countP_isReusedId_eq_zero ?_
    rw [allComponentReports, ofCode_flatMap, List.flatMap_eq_nil_iff]
    exact fun turn _ => DecoderRegistry.Silent.ofCode_componentReports hquiet (by decide) ..
  rw [hsilent, Nat.add_zero] at hcount
  refine ⟨hcount.trans hrepeats, ?_⟩
  rw [hnodup, ← hcount, List.countP_eq_zero]

/-- A pair of chairs, and people with their numbers : one comes before the chairs, one after. -/
def waitingRoom : Document where
  entities :=
    [{ persistentId := some "chair-0" },
      { persistentId := some "chairs"
        components :=
          [(PrefabInstance.kind,
            .obj [("prefabId", .str "pair"), ("instanceUuid", .str "chair")])] },
      { persistentId := some "chair-1" }]
  prefabs := [.obj [("id", .str "pair"), ("root", .obj [("children", .arr [.obj []])])]]

/-- Loads with the standard decoders and settings. -/
def usher : Loader where
  decoders := .standard

theorem reusedIds_load_waitingRoom :
    (usher.load waitingRoom (.startingAt 3) toString).2.countP isReusedId =
        (usher.load waitingRoom (.startingAt 3) toString).1.records.length -
          ((usher.load waitingRoom (.startingAt 3) toString).1.records.map
            Record.persistentId).toFinset.card ∧
      (usher.load waitingRoom (.startingAt 3) toString).2 =
        [collidingId "chair-0", reusedId "chair-1"] := by
  have hids : usher.IdsSuffice waitingRoom.registry toString { ids := .startingAt 3 }
      waitingRoom.entities := by
    unfold IdsSuffice
    decide +kernel
  have hload := reusedIds_load usher waitingRoom (.startingAt 3) toString Prod.mk.eta.symm rfl hids
  exact ⟨(hload.2.2 quiet_standard).1, by decide +kernel⟩

end Loader

end SceneLoad
