import SceneLoad.Scene.Load

/-!
# A pass, entity by entity

An entity's turn has two parts. It enters the pass : it gets its persistent id, its components are
decoded, and it becomes a record if entities do (`Loader.enter`). Then the instance that it is
marked as is made (`Loader.expand`). Only the first part can end the pass (`step_eq`).
`Loader.reached` lists the entities that a pass gets to, each with the state that it finds. The
records of the pass are those of the turns, in order (`records_run`). A pass over more entities goes
on from the state after the first ones (`run_append`). If nothing in its log says that the runtime
ids ran out (`IdsLast`), a pass gets to all its entities (`step_of_idsLast`).
-/

namespace SceneLoad

/-- The prefabs that a pass over a document registers. -/
def Document.registry (document : Document) : PrefabRegistry :=
  (PrefabRegistry.ofJson document.prefabs).1

namespace PassOutput

@[simp] theorem records_append (first second : PassOutput) :
    (first ++ second).records = first.records ++ second.records := rfl

@[simp] theorem diagnostics_append (first second : PassOutput) :
    (first ++ second).diagnostics = first.diagnostics ++ second.diagnostics := rfl

@[simp] theorem skipped_append (first second : PassOutput) :
    (first ++ second).skipped = first.skipped ++ second.skipped := rfl

@[simp] theorem instantiated_append (first second : PassOutput) :
    (first ++ second).instantiated = first.instantiated + second.instantiated := rfl

theorem append_eq (first second : PassOutput) :
    first ++ second =
      { records := first.records ++ second.records
        instantiated := first.instantiated + second.instantiated
        skipped := first.skipped ++ second.skipped
        diagnostics := first.diagnostics ++ second.diagnostics } := rfl

theorem empty_append (output : PassOutput) : ({} : PassOutput) ++ output = output := by
  simp only [append_eq, List.nil_append, Nat.zero_add]

theorem append_empty (output : PassOutput) : output ++ ({} : PassOutput) = output := by
  simp only [append_eq, List.append_nil, Nat.add_zero]

theorem append_assoc (first second third : PassOutput) :
    first ++ second ++ third = first ++ (second ++ third) := by
  simp only [append_eq, List.append_assoc, Nat.add_assoc]

end PassOutput

namespace Loader

variable (self : Loader)

/-- The marker of an entity, if it has one that decodes. Only reports need the entity's id. -/
def entityMarker? (entity : Entity) : Option PrefabInstance :=
  marker? (self.decoders.decodeEntries "" entity.components).components

/-- The persistent id of an entity that is met in a state. -/
def seedId (supply : KeySupply) (state : PassState) (entity : Entity) : String :=
  (self.resolveId supply entity state.drawn).1

/-- What is reported of an entity before its own record. -/
def seedDiagnostics (supply : KeySupply) (state : PassState) (entity : Entity) : List Diagnostic :=
  let id := self.seedId supply state entity
  (if id ∈ state.seen then [reusedId id] else []) ++
    (self.decoders.decodeEntries id entity.components).diagnostics

/-- The state in which an entity has its persistent id. -/
def identified (supply : KeySupply) (state : PassState) (entity : Entity) : PassState :=
  { state with
    drawn := (self.resolveId supply entity state.drawn).2
    seen := claim (self.seedId supply state entity) state.seen }

/-- The state after an entity's own record, with that record if entities become records. There is no
such state if the record gets no runtime id. -/
def enter (supply : KeySupply) (state : PassState) (entity : Entity) :
    Option (PassState × List Record) :=
  if self.config.emitSeedRecords then
    state.ids.allocate.map fun (runtimeId, ids) =>
      ({ self.identified supply state entity with ids },
        [seedRecord entity runtimeId (self.seedId supply state entity)
          (self.decoders.decodeEntries (self.seedId supply state entity)
            entity.components).components])
  else some (self.identified supply state entity, [])

/-- In a turn the entity enters, and then its instance is made. -/
theorem step_eq (prefabs : PrefabRegistry) (supply : KeySupply) (state : PassState)
    (entity : Entity) :
    self.step prefabs supply state entity =
      match self.enter supply state entity with
      | none =>
        .stop { diagnostics := self.seedDiagnostics supply state entity ++
          [idsExhausted (self.seedId supply state entity)] }
      | some (state', own) =>
        self.expandMarker prefabs supply state' (self.entityMarker? entity)
          (self.seedId supply state entity)
          { records := own, diagnostics := self.seedDiagnostics supply state entity } := by
  unfold step enter
  by_cases hemit : self.config.emitSeedRecords = true
  · cases h : state.ids.allocate with
    | none =>
      simp only [hemit, h, if_true, Option.map_none]
      rfl
    | some next =>
      simp only [hemit, h, if_true, Option.map_some]
      rfl
  · simp only [hemit]
    rfl

/-- What is said of an entity up to its own record. -/
def seedOutput (supply : KeySupply) (state : PassState) (entity : Entity) (own : List Record) :
    PassOutput :=
  { records := own, diagnostics := self.seedDiagnostics supply state entity }

variable {self}
variable {prefabs : PrefabRegistry} {supply : KeySupply} {state state' : PassState}
  {entity : Entity} {output : PassOutput}

/-- An entity that enters is identified. If entities become records, its own one takes an id. -/
theorem enter_cases {entered : PassState} {own : List Record}
    (h : self.enter supply state entity = some (entered, own)) :
    (self.config.emitSeedRecords = true ∧ ∃ id ids, state.ids.allocate = some (id, ids) ∧
        entered = { self.identified supply state entity with ids } ∧
        own = [seedRecord entity id (self.seedId supply state entity)
          (self.decoders.decodeEntries (self.seedId supply state entity)
            entity.components).components]) ∨
      self.config.emitSeedRecords = false ∧ entered = self.identified supply state entity ∧
        own = [] := by
  unfold enter at h
  split at h
  · next hemit =>
    obtain ⟨⟨id, ids⟩, hids, hentered⟩ := Option.map_eq_some_iff.1 h
    obtain ⟨rfl, rfl⟩ := Prod.mk.inj hentered
    exact .inl ⟨hemit, id, ids, hids, rfl, rfl⟩
  · next hemit =>
    obtain ⟨rfl, rfl⟩ := Prod.mk.inj (Option.some.inj h)
    exact .inr ⟨Bool.of_not_eq_true hemit, rfl, rfl⟩

/-- To enter changes nothing of a state but the ids, once the entity is identified. -/
theorem exists_ids_of_enter {entered : PassState} {own : List Record}
    (h : self.enter supply state entity = some (entered, own)) :
    ∃ ids, entered = { self.identified supply state entity with ids } := by
  rcases enter_cases h with ⟨-, id, ids, -, rfl, -⟩ | ⟨-, rfl, -⟩
  · exact ⟨ids, rfl⟩
  · exact ⟨state.ids, rfl⟩

/-- A pass that ends at an entity records nothing of it. -/
theorem enter_of_step_stop (h : self.step prefabs supply state entity = .stop output) :
    self.enter supply state entity = none ∧ output.records = [] := by
  rw [step_eq] at h
  cases henter : self.enter supply state entity with
  | none =>
    simp only [henter, EntityStep.stop.injEq] at h
    exact ⟨rfl, by rw [← h]⟩
  | some entered =>
    simp only [henter, expandMarker] at h
    split at h <;> simp at h

/-- An entity that does not end the pass has entered, and has its instance if it is marked. -/
theorem step_next_cases (h : self.step prefabs supply state entity = .next state' output) :
    ∃ entered own, self.enter supply state entity = some (entered, own) ∧
      (self.entityMarker? entity = none ∧ state' = entered ∧
          output = self.seedOutput supply state entity own ∨
        ∃ marker, self.entityMarker? entity = some marker ∧
          state' = (self.expand prefabs supply entered marker
            (self.seedId supply state entity)).1 ∧
          output = self.seedOutput supply state entity own ++
            (self.expand prefabs supply entered marker (self.seedId supply state entity)).2) := by
  rw [step_eq] at h
  cases henter : self.enter supply state entity with
  | none => simp [henter] at h
  | some entered =>
    obtain ⟨entered, own⟩ := entered
    refine ⟨entered, own, rfl, ?_⟩
    cases hmarker : self.entityMarker? entity with
    | none =>
      simp only [henter, hmarker, expandMarker, EntityStep.next.injEq] at h
      exact .inl ⟨rfl, h.1.symm, h.2.symm⟩
    | some marker =>
      simp only [henter, hmarker, expandMarker, EntityStep.next.injEq] at h
      exact .inr ⟨marker, rfl, h.1.symm, h.2.symm⟩

/-- A load is a pass over the entities, after the prefabs are registered. -/
theorem load_eq (document : Document) (ids : IdAllocator) :
    self.load document ids supply =
      ({ records := (self.run document.registry supply { ids } document.entities).records
         registeredPrefabs := document.registry.ids
         instantiatedSeeds :=
           (self.run document.registry supply { ids } document.entities).instantiated
         skippedSeeds := (self.run document.registry supply { ids } document.entities).skipped },
        (PrefabRegistry.ofJson document.prefabs).2 ++
          (self.run document.registry supply { ids } document.entities).diagnostics) := rfl

/-! ## Instances -/

section Instances

variable (self) (prefabs supply state) (marker : PrefabInstance) (seed : String)

/-- The attempt at the instance that an entity is marked as, after its key is claimed. -/
def outcome : InstanceOutcome :=
  let instantiator : Instantiator :=
    { prefabs, decoders := self.decoders, maxDepth := self.config.maxPrefabDepth }
  instantiator.instantiate supply (claimKey (.ofMarker marker seed) state.instanceKeys).1 state.ids
    state.drawn

theorem drawn_expand : (self.expand prefabs supply state marker seed).1.drawn =
    (self.outcome prefabs supply state marker seed).drawn := by
  unfold expand
  dsimp only
  split <;> rfl

theorem ids_expand : (self.expand prefabs supply state marker seed).1.ids =
    (self.outcome prefabs supply state marker seed).ids := by
  unfold expand
  dsimp only
  split <;> rfl

theorem instanceKeys_expand : (self.expand prefabs supply state marker seed).1.instanceKeys =
    (claimKey (.ofMarker marker seed) state.instanceKeys).2.1 := by
  unfold expand
  dsimp only
  split <;> rfl

/-- The key is reported first, and last the ids in use or why nothing was made. -/
theorem output_expand : (self.expand prefabs supply state marker seed).2 =
    match (self.outcome prefabs supply state marker seed).result with
    | .ok records =>
      { records, instantiated := 1
        diagnostics := (claimKey (.ofMarker marker seed) state.instanceKeys).2.2 ++
          (self.outcome prefabs supply state marker seed).diagnostics ++
          (claimRecords state.seen records).2 }
    | .error error =>
      { skipped := [seed]
        diagnostics := (claimKey (.ofMarker marker seed) state.instanceKeys).2.2 ++
          (self.outcome prefabs supply state marker seed).diagnostics ++ [error.diagnostic] } := by
  unfold expand outcome
  dsimp only
  generalize Instantiator.instantiate _ supply _ state.ids state.drawn = outcome
  cases outcome.result with
  | ok records => rfl
  | error error => rfl

theorem records_expand_eq : (self.expand prefabs supply state marker seed).2.records =
    (self.outcome prefabs supply state marker seed).result.toOption.getD [] := by
  rw [output_expand]
  cases (self.outcome prefabs supply state marker seed).result with
  | ok records => rfl
  | error error => rfl

/-- An attempt that fails leaves no records. -/
theorem records_expand : (self.expand prefabs supply state marker seed).2.records = [] ∨
    (self.outcome prefabs supply state marker seed).result =
      .ok (self.expand prefabs supply state marker seed).2.records := by
  unfold expand
  dsimp only
  split
  · next records hok => exact .inr hok
  · exact .inl rfl

/-- An attempt that succeeds claims the ids of its records. -/
theorem seen_expand : (self.expand prefabs supply state marker seed).1.seen =
    match (self.outcome prefabs supply state marker seed).result with
    | .ok records => (claimRecords state.seen records).1
    | .error _ => state.seen := by
  unfold expand outcome
  dsimp only
  generalize Instantiator.instantiate _ supply _ state.ids state.drawn = outcome
  cases outcome.result with
  | ok records => rfl
  | error error => rfl

theorem diagnostics_expand : (self.expand prefabs supply state marker seed).2.diagnostics =
    (claimKey (.ofMarker marker seed) state.instanceKeys).2.2 ++
      (self.outcome prefabs supply state marker seed).diagnostics ++
      match (self.outcome prefabs supply state marker seed).result with
      | .ok records => (claimRecords state.seen records).2
      | .error error => [error.diagnostic] := by
  rw [output_expand]
  cases (self.outcome prefabs supply state marker seed).result with
  | ok records => rfl
  | error error => rfl

end Instances

/-! ## Records of the turns -/

variable (self)

/-- The records of the instance that an entity is marked as. -/
def instanceRecords (prefabs : PrefabRegistry) (supply : KeySupply) (state : PassState)
    (entity : Entity) : List Record :=
  match self.enter supply state entity, self.entityMarker? entity with
  | some (entered, _), some marker =>
    (self.expand prefabs supply entered marker (self.seedId supply state entity)).2.records
  | _, _ => []

/-- An entity's own record, if it has one. -/
def ownRecords (supply : KeySupply) (state : PassState) (entity : Entity) : List Record :=
  match self.enter supply state entity with
  | some (_, own) => own
  | none => []

/-- The entities that a pass gets to, each with the state that it finds. -/
def reached (prefabs : PrefabRegistry) (supply : KeySupply) :
    PassState → List Entity → List (PassState × Entity)
  | _, [] => []
  | state, entity :: rest =>
    (state, entity) ::
      match self.step prefabs supply state entity with
      | .stop _ => []
      | .next state' _ => reached prefabs supply state' rest

/-- The number of keys drawn by the end of a pass. -/
def drawnAfter (prefabs : PrefabRegistry) (supply : KeySupply) : PassState → List Entity → Nat
  | state, [] => state.drawn
  | state, entity :: rest =>
    match self.step prefabs supply state entity with
    | .stop _ => (self.identified supply state entity).drawn
    | .next state' _ => drawnAfter prefabs supply state' rest

variable {self}

theorem records_of_step_next (h : self.step prefabs supply state entity = .next state' output) :
    output.records =
      self.ownRecords supply state entity ++ self.instanceRecords prefabs supply state entity := by
  obtain ⟨entered, own, henter, hcases⟩ := step_next_cases h
  rcases hcases with ⟨hmarker, -, rfl⟩ | ⟨marker, hmarker, -, rfl⟩
  · simp [ownRecords, instanceRecords, henter, hmarker, seedOutput]
  · simp only [ownRecords, instanceRecords, henter, hmarker]
    rfl

/-- The records of a pass are those of the turns. -/
theorem records_run : ∀ (state : PassState) (entities : List Entity),
    (self.run prefabs supply state entities).records =
      (self.reached prefabs supply state entities).flatMap fun (state, entity) =>
        self.ownRecords supply state entity ++ self.instanceRecords prefabs supply state entity
  | _, [] => rfl
  | state, entity :: rest => by
    rw [run, reached]
    cases hstep : self.step prefabs supply state entity with
    | stop output =>
      obtain ⟨henter, hrecords⟩ := enter_of_step_stop hstep
      simp [hrecords, ownRecords, instanceRecords, henter]
    | next state' output =>
      simp only [List.flatMap_cons, ← records_of_step_next hstep, ← records_run state' rest]
      rfl

/-! ## Passes that do not run out of ids -/

/-- Nothing in the log says that the runtime ids ran out. -/
def IdsLast (log : List Diagnostic) : Prop :=
  ∀ diagnostic ∈ log, diagnostic.code ≠ .entityIdsExhausted

theorem idsLast_append {log log' : List Diagnostic} :
    IdsLast (log ++ log') ↔ IdsLast log ∧ IdsLast log' :=
  List.forall_mem_append

/-- A turn that ends the pass reports it. -/
theorem not_idsLast_of_step_stop (h : self.step prefabs supply state entity = .stop output) :
    ¬IdsLast output.diagnostics := by
  obtain ⟨henter, -⟩ := enter_of_step_stop h
  rw [step_eq, henter] at h
  obtain rfl := EntityStep.stop.inj h
  intro hlast
  have hreport := (idsLast_append.1 hlast).2
  exact hreport _ (List.mem_singleton.2 rfl) rfl

/-- If nothing in the log says that the ids ran out, each turn leads on to the next. -/
theorem step_of_idsLast {rest : List Entity}
    (h : IdsLast (self.run prefabs supply state (entity :: rest)).diagnostics) :
    ∃ state' output, self.step prefabs supply state entity = .next state' output ∧
      IdsLast output.diagnostics ∧ IdsLast (self.run prefabs supply state' rest).diagnostics := by
  rw [run] at h
  cases hstep : self.step prefabs supply state entity with
  | stop output =>
    rw [hstep] at h
    exact absurd h (not_idsLast_of_step_stop hstep)
  | next state' output =>
    rw [hstep] at h
    exact ⟨state', output, rfl, idsLast_append.1 h⟩

theorem outcome_of_idsLast {marker : PrefabInstance} {seed : String}
    (h : IdsLast (self.expand prefabs supply state marker seed).2.diagnostics)
    (prefabId seed' : String) :
    (self.outcome prefabs supply state marker seed).result ≠
      .error (.idsExhausted prefabId seed') := by
  intro hresult
  rw [diagnostics_expand, hresult] at h
  have hreport := (idsLast_append.1 h).2
  exact hreport _ (List.mem_singleton.2 rfl) rfl

/-! ## Passes in two parts -/

variable (self)

/-- The state after a pass over entities, unless it ends early. -/
def stateAfter (prefabs : PrefabRegistry) (supply : KeySupply) :
    PassState → List Entity → Option PassState
  | state, [] => some state
  | state, entity :: rest =>
    match self.step prefabs supply state entity with
    | .stop _ => none
    | .next state' _ => stateAfter prefabs supply state' rest

/-- A pass goes on from the state after its first part, unless it has ended. -/
theorem run_append (self : Loader) (prefabs : PrefabRegistry) (supply : KeySupply) :
    ∀ (state : PassState) (entities more : List Entity),
      self.run prefabs supply state (entities ++ more) =
        match self.stateAfter prefabs supply state entities with
        | none => self.run prefabs supply state entities
        | some state' =>
          self.run prefabs supply state entities ++ self.run prefabs supply state' more
  | state, [], more => (PassOutput.empty_append _).symm
  | state, entity :: rest, more => by
    rw [List.cons_append, run, run, stateAfter]
    cases hstep : self.step prefabs supply state entity with
    | stop output => rfl
    | next state' output =>
      simp only [run_append self prefabs supply state' rest more]
      cases self.stateAfter prefabs supply state' rest with
      | none => rfl
      | some later => exact (PassOutput.append_assoc ..).symm

end Loader

end SceneLoad
