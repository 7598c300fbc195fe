import SceneLoad.Proofs.Seeds
import SceneLoad.Proofs.StartingIds

/-!
# Passes that run out of runtime ids

The ids can run out in two places. If an entity gets none for its own record, the pass reports it
and ends there. If the nodes of an instance use them up, the instance is given up and reported
(`lostInstance?`), but the pass goes on with the next entity. Where entities become records, that
one gets no id, is reported too, and ends the pass; where they do not, nothing ends it, and the
report comes again for every later seed that has something to record.

So a pass reports its end once, and last of all, exactly if no entity comes after one whose instance
was lost for want of ids (`stopsWhenExhausted_iff`).
-/

namespace SceneLoad

open Diagnostic

namespace PassOutput

/-- Outputs one after another. -/
def concat (outputs : List PassOutput) : PassOutput := outputs.foldr append {}

theorem concat_cons (output : PassOutput) (rest : List PassOutput) :
    concat (output :: rest) = output ++ concat rest := rfl

theorem diagnostics_concat (outputs : List PassOutput) :
    (concat outputs).diagnostics = outputs.flatMap diagnostics := by
  induction outputs with
  | nil => rfl
  | cons output rest ih => rw [concat_cons, diagnostics_append, ih, List.flatMap_cons]

end PassOutput

namespace Loader

theorem idsLast_iff (log : List Diagnostic) :
    IdsLast log ↔ ofCode .entityIdsExhausted log = [] := by
  simp [IdsLast, ofCode, List.filter_eq_nil_iff]

/-! ## Turns and what they say -/

section Turns

variable (self : Loader) (prefabs : PrefabRegistry) (supply : KeySupply)

/-- What a turn adds to the report and the log. -/
def turnOutput (turn : PassState × Entity) : PassOutput :=
  match self.step prefabs supply turn.1 turn.2 with
  | .stop output => output
  | .next _ output => output

/-- A pass says what its turns say, one after another. -/
theorem run_eq_turns : ∀ (state : PassState) (entities : List Entity),
    self.run prefabs supply state entities =
      .concat ((self.reached prefabs supply state entities).map (self.turnOutput prefabs supply))
  | _, [] => rfl
  | state, entity :: rest => by
    rw [run, reached, List.map_cons, PassOutput.concat_cons, turnOutput]
    cases hstep : self.step prefabs supply state entity with
    | stop output => exact (PassOutput.append_empty output).symm
    | next state' output => exact congrArg (output ++ ·) (run_eq_turns state' rest)

theorem diagnostics_run (state : PassState) (entities : List Entity) :
    (self.run prefabs supply state entities).diagnostics =
      (self.reached prefabs supply state entities).flatMap fun turn =>
        (self.turnOutput prefabs supply turn).diagnostics := by
  rw [run_eq_turns, PassOutput.diagnostics_concat, List.flatMap_map]

/-- Why the instance of a turn is given up, if the ids ran out. -/
def lostInstance? (turn : PassState × Entity) : Option InstanceError :=
  match self.enter supply turn.1 turn.2, self.entityMarker? turn.2 with
  | some (entered, _), some marker =>
    match (self.outcome prefabs supply entered marker
        (self.seedId supply turn.1 turn.2)).result with
    | .error (.idsExhausted prefabId seed) => some (.idsExhausted prefabId seed)
    | _ => none
  | _, _ => none

/-- The report that the ids ran out in a turn, if they did. -/
def exhaustion? (turn : PassState × Entity) : Option Diagnostic :=
  match self.enter supply turn.1 turn.2 with
  | none => some (idsExhausted (self.seedId supply turn.1 turn.2))
  | some _ => (self.lostInstance? prefabs supply turn).map InstanceError.diagnostic

end Turns

variable {self : Loader} {prefabs : PrefabRegistry} {supply : KeySupply}
  {state state' : PassState} {entity : Entity} {output : PassOutput}

/-- What is said of an instance is said by the decoders, by the pass about something else, or it is
the report that the ids ran out, which comes last. -/
theorem diagnostics_expand_exhausted (marker : PrefabInstance) (seed : String) :
    ∃ body lost, (self.expand prefabs supply state marker seed).2.diagnostics = body ++ lost ∧
      ofCode .entityIdsExhausted body =
        ofCode .entityIdsExhausted
          (self.outcome prefabs supply state marker seed).diagnostics ∧
      lost = match (self.outcome prefabs supply state marker seed).result with
        | .error (.idsExhausted prefabId seed') =>
          [(InstanceError.idsExhausted prefabId seed').diagnostic]
        | _ => [] := by
  have hkey : ofCode .entityIdsExhausted
      (claimKey (.ofMarker marker seed) state.instanceKeys).2.2 = [] :=
    ofCode_eq_nil_of_duplicates DiagnosticCode.noConfusion fun diagnostic => code_of_mem_claimKey
  rw [diagnostics_expand]
  cases (self.outcome prefabs supply state marker seed).result with
  | ok records =>
    have hclaimed : ofCode .entityIdsExhausted (claimRecords state.seen records).2 = [] :=
      ofCode_eq_nil_of_duplicates DiagnosticCode.noConfusion
        (code_of_mem_claimRecords state.seen records)
    refine ⟨_, [], (List.append_nil _).symm, ?_, rfl⟩
    rw [ofCode_append, ofCode_append, hkey, hclaimed, List.nil_append, List.append_nil]
  | error error =>
    cases error with
    | prefabNotFound prefabId seed' =>
      refine ⟨_, [], (List.append_nil _).symm, ?_, rfl⟩
      rw [ofCode_append, ofCode_append, hkey, List.nil_append]
      exact List.append_nil _
    | idsExhausted prefabId seed' =>
      refine ⟨_, _, rfl, ?_, rfl⟩
      rw [ofCode_append, hkey, List.nil_append]

/-- The report that the ids ran out is the last one of a turn. The others with this code are the
decoders'. -/
theorem diagnostics_turnOutput (self : Loader) (prefabs : PrefabRegistry) (supply : KeySupply)
    (turn : PassState × Entity) :
    ∃ body, (self.turnOutput prefabs supply turn).diagnostics =
        body ++ (self.exhaustion? prefabs supply turn).toList ∧
      ofCode .entityIdsExhausted body =
        ofCode .entityIdsExhausted (self.componentReports prefabs supply turn.1 turn.2) := by
  obtain ⟨state, entity⟩ := turn
  have hseed : ofCode .entityIdsExhausted (self.seedDiagnostics supply state entity) = _ :=
    ofCode_seedDiagnostics DiagnosticCode.noConfusion self supply state entity
  unfold turnOutput exhaustion? lostInstance? componentReports
  dsimp only
  rw [step_eq, ofCode_append, ← hseed]
  cases henter : self.enter supply state entity with
  | none => exact ⟨_, rfl, (List.append_nil _).symm⟩
  | some entered =>
    obtain ⟨entered, own⟩ := entered
    cases hmarker : self.entityMarker? entity with
    | none => exact ⟨_, (List.append_nil _).symm, (List.append_nil _).symm⟩
    | some marker =>
      obtain ⟨body, lost, hexpand, hbody, hlost⟩ :=
        @diagnostics_expand_exhausted self prefabs supply entered marker
          (self.seedId supply state entity)
      have hcode : DiagnosticCode.entityIdsExhausted ∉ Instantiator.ownCodes := by decide
      have hattempt := ofCode_instantiate hcode
        { prefabs, decoders := self.decoders, maxDepth := self.config.maxPrefabDepth } supply
        (claimKey (.ofMarker marker (self.seedId supply state entity)) entered.instanceKeys).1
        entered.ids entered.drawn
      refine ⟨self.seedDiagnostics supply state entity ++ body, ?_, ?_⟩
      · simp only [expandMarker, PassOutput.diagnostics_append, hexpand, hlost]
        rw [List.append_assoc]
        congr 2
        split <;> rfl
      · rw [ofCode_append, hbody, outcome, hattempt]

/-- If the decoders never say that ids ran out, only the pass does. -/
theorem ofCode_turnOutput (hsilent : self.decoders.Silent .entityIdsExhausted)
    (turn : PassState × Entity) :
    ofCode .entityIdsExhausted (self.turnOutput prefabs supply turn).diagnostics =
      (self.exhaustion? prefabs supply turn).toList := by
  obtain ⟨body, hdiagnostics, hbody⟩ := diagnostics_turnOutput self prefabs supply turn
  rw [hdiagnostics, ofCode_append, hbody, hsilent.ofCode_componentReports (by decide),
    List.nil_append]
  unfold exhaustion? lostInstance?
  repeat' split
  all_goals rfl

theorem isSome_exhaustion?_iff (hsilent : self.decoders.Silent .entityIdsExhausted)
    (turn : PassState × Entity) :
    (self.exhaustion? prefabs supply turn).isSome = true ↔
      ¬IdsLast (self.turnOutput prefabs supply turn).diagnostics := by
  rw [idsLast_iff, ofCode_turnOutput hsilent]
  cases self.exhaustion? prefabs supply turn <;> simp

/-! ## Turns after the ids ran out -/

/-- An attempt that runs out of ids leaves none. -/
theorem exhausted_instantiate {self : Instantiator} {supply : KeySupply}
    {request : InstanceRequest} {ids : IdAllocator} {drawn : Nat} {prefabId seed : String}
    (h : (self.instantiate supply request ids drawn).result =
      .error (.idsExhausted prefabId seed)) :
    (self.instantiate supply request ids drawn).ids.next = none := by
  unfold Instantiator.instantiate at h ⊢
  cases hget : self.prefabs.get? request.prefabId with
  | none =>
    rw [hget] at h
    cases h
  | some definition =>
    simp only [hget, walk_eq_stamp] at h ⊢
    split_ifs at h with hcomplete
    exact exhausted_stamp self definition.id _ _ ids (Bool.eq_false_iff.2 hcomplete)

/-- The pass goes on without ids after an instance that was lost for want of them. -/
theorem step_of_lostInstance? {turn : PassState × Entity}
    (h : (self.lostInstance? prefabs supply turn).isSome = true) :
    ∃ after output, self.step prefabs supply turn.1 turn.2 = .next after output ∧
      after.ids.next = none := by
  unfold lostInstance? at h
  rw [step_eq]
  cases henter : self.enter supply turn.1 turn.2 with
  | none => simp [henter] at h
  | some entered =>
    obtain ⟨entered, own⟩ := entered
    cases hmarker : self.entityMarker? turn.2 with
    | none => simp [henter, hmarker] at h
    | some marker =>
      simp only [henter, hmarker] at h
      refine ⟨(self.expand prefabs supply entered marker (self.seedId supply turn.1 turn.2)).1, _,
        rfl, ?_⟩
      rw [ids_expand]
      split at h
      · next prefabId seed hresult => exact exhausted_instantiate hresult
      · cases h

/-- Without ids an entity that is to become a record does not enter. -/
theorem enter_of_exhausted (hemit : self.config.emitSeedRecords = true) (supply : KeySupply)
    (h : state.ids.next = none) (entity : Entity) : self.enter supply state entity = none := by
  rw [enter, if_pos hemit, IdAllocator.allocate, h, Option.map_none]

theorem isSome_enter_of_not_emit (hemit : self.config.emitSeedRecords = false)
    (supply : KeySupply) (state : PassState) (entity : Entity) :
    (self.enter supply state entity).isSome = true := by
  rw [enter, hemit]
  rfl

theorem step_of_enter_eq_none (prefabs : PrefabRegistry)
    (h : self.enter supply state entity = none) :
    ∃ output, self.step prefabs supply state entity = .stop output := by
  rw [step_eq, h]
  exact ⟨_, rfl⟩

/-- What comes after a turn is the pass from the state that it leaves. -/
theorem drop_reached : ∀ {state : PassState} {entities : List Entity} {n : Nat}
    {turn : PassState × Entity}, (self.reached prefabs supply state entities)[n]? = some turn →
      n < entities.length ∧
        (self.reached prefabs supply state entities).drop (n + 1) =
          match self.step prefabs supply turn.1 turn.2 with
          | .stop _ => []
          | .next after _ => self.reached prefabs supply after (entities.drop (n + 1))
  | state, [], n, turn, h => by simp [reached] at h
  | state, entity :: rest, 0, turn, h => by
    rw [reached] at h ⊢
    obtain rfl := Option.some.inj h
    exact ⟨Nat.succ_pos _, rfl⟩
  | state, entity :: rest, n + 1, turn, h => by
    rw [reached, List.getElem?_cons_succ] at h
    rw [reached, List.drop_succ_cons, List.drop_succ_cons, List.length_cons]
    cases hstep : self.step prefabs supply state entity with
    | stop output => simp [hstep] at h
    | next state' output =>
      rw [hstep] at h
      obtain ⟨hlt, hdrop⟩ := drop_reached h
      exact ⟨Nat.succ_lt_succ hlt, hdrop⟩

/-- Where entities become records, the pass gets to one more entity at most. -/
theorem length_reached_of_exhausted (hemit : self.config.emitSeedRecords = true)
    (prefabs : PrefabRegistry) (supply : KeySupply) (h : state.ids.next = none)
    (entities : List Entity) : (self.reached prefabs supply state entities).length ≤ 1 := by
  cases entities with
  | nil => exact Nat.zero_le 1
  | cons entity rest =>
    have henter := enter_of_exhausted hemit supply h entity
    obtain ⟨output, hstep⟩ := step_of_enter_eq_none prefabs henter
    rw [reached, hstep]
    exact Nat.le_refl 1

/-- Where they do not, it gets to all. -/
theorem reached_of_not_emit (hemit : self.config.emitSeedRecords = false) :
    ∀ (state : PassState) (entities : List Entity),
      (self.reached prefabs supply state entities).map Prod.snd = entities
  | _, [] => rfl
  | state, entity :: rest => by
    rw [reached, List.map_cons]
    cases hstep : self.step prefabs supply state entity with
    | stop output =>
      have henter := isSome_enter_of_not_emit hemit supply state entity
      rw [(enter_of_step_stop hstep).1] at henter
      cases henter
    | next state' output =>
      exact congrArg (entity :: ·) (reached_of_not_emit hemit state' rest)

theorem exhaustion?_cases {turn : PassState × Entity}
    (h : (self.exhaustion? prefabs supply turn).isSome = true) :
    self.enter supply turn.1 turn.2 = none ∨
      (self.lostInstance? prefabs supply turn).isSome = true := by
  unfold exhaustion? at h
  split at h
  · next henter => exact .inl henter
  · exact .inr (by simpa using h)

theorem isSome_exhaustion?_of_lostInstance? {turn : PassState × Entity}
    (h : (self.lostInstance? prefabs supply turn).isSome = true) :
    (self.exhaustion? prefabs supply turn).isSome = true := by
  unfold exhaustion?
  split
  · rfl
  · simpa using h

section Positions

variable {entities : List Entity} {n : Nat} {turn : PassState × Entity}

/-- An entity that gets no id is the last one that the pass gets to. -/
theorem length_reached_of_enter_eq_none
    (hturn : (self.reached prefabs supply state entities)[n]? = some turn)
    (h : self.enter supply turn.1 turn.2 = none) :
    (self.reached prefabs supply state entities).length = n + 1 := by
  obtain ⟨output, hstep⟩ := step_of_enter_eq_none prefabs h
  have hdrop := (drop_reached hturn).2
  rw [hstep] at hdrop
  have hlt := (List.getElem?_eq_some_iff.1 hturn).1
  exact Nat.le_antisymm (List.drop_eq_nil_iff.1 hdrop) hlt

/-- A lost instance is in the last turn only if its entity is the last one of all. -/
theorem length_reached_of_lostInstance?
    (hturn : (self.reached prefabs supply state entities)[n]? = some turn)
    (h : (self.lostInstance? prefabs supply turn).isSome = true) :
    (self.reached prefabs supply state entities).length = n + 1 ↔ entities.length = n + 1 := by
  obtain ⟨after, output, hstep, -⟩ := step_of_lostInstance? h
  obtain ⟨hn, hdrop⟩ := drop_reached hturn
  have hlt := (List.getElem?_eq_some_iff.1 hturn).1
  simp only [hstep] at hdrop
  constructor
  · intro hlength
    rw [List.drop_of_length_le (Nat.le_of_eq hlength)] at hdrop
    cases hrest : entities.drop (n + 1) with
    | nil => exact Nat.le_antisymm (List.drop_eq_nil_iff.1 hrest) hn
    | cons entity rest => simp [hrest, reached] at hdrop
  · intro hlength
    rw [List.drop_of_length_le (Nat.le_of_eq hlength)] at hdrop
    exact Nat.le_antisymm (List.drop_eq_nil_iff.1 hdrop) hlt

/-- After a lost instance a pass whose entities become records gets to one more entity at most. -/
theorem length_reached_le_of_lostInstance? (hemit : self.config.emitSeedRecords = true)
    (hturn : (self.reached prefabs supply state entities)[n]? = some turn)
    (h : (self.lostInstance? prefabs supply turn).isSome = true) :
    (self.reached prefabs supply state entities).length ≤ n + 2 := by
  obtain ⟨after, output, hstep, hexhausted⟩ := step_of_lostInstance? h
  have hdrop := (drop_reached hturn).2
  simp only [hstep] at hdrop
  have hlength := congrArg List.length hdrop
  have hle := length_reached_of_exhausted hemit prefabs supply hexhausted (entities.drop (n + 1))
  rw [List.length_drop] at hlength
  omega

end Positions

/-- Few are found in a list after whose first hit little comes. -/
theorem length_filterMap_le {α β : Type} (f : α → Option β) (k : Nat) : ∀ {xs : List α},
    (∀ n x, xs[n]? = some x → (f x).isSome = true → xs.length ≤ n + 1 + k) →
      (xs.filterMap f).length ≤ k + 1
  | [], _ => Nat.zero_le _
  | x :: rest, h => by
    cases hx : f x with
    | none =>
      rw [List.filterMap_cons_none hx]
      refine length_filterMap_le f k fun n y hy hsome => ?_
      have hlength := h (n + 1) y hy hsome
      rw [List.length_cons] at hlength
      omega
    | some y =>
      have hlength := h 0 x rfl (by rw [hx]; rfl)
      have hrest := List.length_filterMap_le f rest
      rw [List.filterMap_cons_some hx, List.length_cons]
      rw [List.length_cons] at hlength
      omega

/-! ## Loads -/

/-- A load that runs out of ids reports it once and last of all, and gets to no entity after the one
at which it does. -/
structure StopsWhenExhausted (self : Loader) (document : Document) (ids : IdAllocator)
    (supply : KeySupply) : Prop where
  once : (ofCode .entityIdsExhausted (self.load document ids supply).2).length ≤ 1
  last : ∀ n turn,
    (self.reached document.registry supply { ids } document.entities)[n]? = some turn →
      ¬IdsLast (self.turnOutput document.registry supply turn).diagnostics →
        (self.reached document.registry supply { ids } document.entities).length = n + 1 ∧
          ∃ first report, (self.load document ids supply).2 = first ++ [report] ∧
            report.code = .entityIdsExhausted

/-- The log of a load : the registration of prefabs, and then the turns. -/
theorem log_load (self : Loader) (document : Document) (ids : IdAllocator) (supply : KeySupply) :
    (self.load document ids supply).2 =
      (PrefabRegistry.ofJson document.prefabs).2 ++
        (self.reached document.registry supply { ids } document.entities).flatMap fun turn =>
          (self.turnOutput document.registry supply turn).diagnostics := by
  rw [load_eq, diagnostics_run]

/-- If the decoders never say it, a load says that ids ran out as often as they did. -/
theorem ofCode_load (hsilent : self.decoders.Silent .entityIdsExhausted) (document : Document)
    (ids : IdAllocator) (supply : KeySupply) :
    ofCode .entityIdsExhausted (self.load document ids supply).2 =
      (self.reached document.registry supply { ids } document.entities).filterMap
        (self.exhaustion? document.registry supply) := by
  rw [log_load, ofCode_append, ofCode_registration (by decide), List.nil_append, ofCode_flatMap,
    List.filterMap_eq_flatMap_toList]
  exact List.flatMap_congr fun turn _ => ofCode_turnOutput hsilent turn

/-- The report of a last turn that runs out of ids is the last one of the load. -/
theorem log_load_of_last {document : Document} {ids : IdAllocator} {n : Nat}
    {turn : PassState × Entity}
    (hturn : (self.reached document.registry supply { ids } document.entities)[n]? = some turn)
    (hlast : (self.reached document.registry supply { ids } document.entities).length = n + 1)
    (h : (self.exhaustion? document.registry supply turn).isSome = true) :
    ∃ first report, (self.load document ids supply).2 = first ++ [report] ∧
      report.code = .entityIdsExhausted := by
  obtain ⟨report, hreport⟩ := Option.isSome_iff_exists.1 h
  have hcode : report.code = .entityIdsExhausted := by
    unfold exhaustion? lostInstance? at hreport
    repeat' split at hreport
    all_goals cases hreport
    all_goals rfl
  obtain ⟨body, hdiagnostics, -⟩ := diagnostics_turnOutput self document.registry supply turn
  have hsplit : self.reached document.registry supply { ids } document.entities =
      (self.reached document.registry supply { ids } document.entities).take n ++ [turn] := by
    have htake := List.take_add_one (l := self.reached document.registry supply { ids }
      document.entities) (i := n)
    rwa [hturn, Option.toList_some, ← hlast, List.take_length] at htake
  rw [log_load, hsplit, List.flatMap_append, List.flatMap_singleton, hdiagnostics, hreport,
    Option.toList_some, ← List.append_assoc, ← List.append_assoc]
  exact ⟨_, report, rfl, hcode⟩

/-- A load stops when it runs out of ids exactly if no entity comes after one whose instance was
lost for want of them. Otherwise, where entities become records, it stops one entity later and says
so twice; where they do not, it gets to all entities. -/
theorem stopsWhenExhausted_iff (self : Loader) (document : Document) (ids : IdAllocator)
    (supply : KeySupply) (hsilent : self.decoders.Silent .entityIdsExhausted)
    {turns : List (PassState × Entity)}
    (hturns : self.reached document.registry supply { ids } document.entities = turns) :
    (self.StopsWhenExhausted document ids supply ↔
        ∀ n turn, turns[n]? = some turn →
          (self.lostInstance? document.registry supply turn).isSome = true →
            document.entities.length = n + 1) ∧
      (self.config.emitSeedRecords = true →
        (ofCode .entityIdsExhausted (self.load document ids supply).2).length ≤ 2 ∧
          ∀ n turn, turns[n]? = some turn →
            (self.lostInstance? document.registry supply turn).isSome = true →
              turns.length ≤ n + 2) ∧
      (self.config.emitSeedRecords = false → turns.map Prod.snd = document.entities) := by
  subst hturns
  refine ⟨⟨fun ⟨_, hlast⟩ n turn hturn hlost => ?_, fun honly => ?_⟩, fun hemit => ⟨?_, ?_⟩,
    fun hemit => reached_of_not_emit hemit _ _⟩
  · have hreported := (isSome_exhaustion?_iff hsilent turn).1
      (isSome_exhaustion?_of_lostInstance? hlost)
    exact (length_reached_of_lostInstance? hturn hlost).1 (hlast n turn hturn hreported).1
  · have hend : ∀ n turn,
        (self.reached document.registry supply { ids } document.entities)[n]? = some turn →
          (self.exhaustion? document.registry supply turn).isSome = true →
            (self.reached document.registry supply { ids } document.entities).length =
              n + 1 := by
      intro n turn hturn hexhaustion
      rcases exhaustion?_cases hexhaustion with henter | hlost
      · exact length_reached_of_enter_eq_none hturn henter
      · exact (length_reached_of_lostInstance? hturn hlost).2 (honly n turn hturn hlost)
    refine ⟨?_, fun n turn hturn hreported => ?_⟩
    · rw [ofCode_load hsilent]
      exact length_filterMap_le _ 0 fun n turn hturn hexhaustion =>
        Nat.le_of_eq (hend n turn hturn hexhaustion)
    · have hexhaustion := (isSome_exhaustion?_iff hsilent turn).2 hreported
      have hlength := hend n turn hturn hexhaustion
      exact ⟨hlength, log_load_of_last hturn hlength hexhaustion⟩
  · rw [ofCode_load hsilent]
    refine length_filterMap_le _ 1 fun n turn hturn hexhaustion => ?_
    rcases exhaustion?_cases hexhaustion with henter | hlost
    · have hlength := length_reached_of_enter_eq_none hturn henter
      omega
    · exact length_reached_le_of_lostInstance? hemit hturn hlost
  · exact fun n turn hturn hlost => length_reached_le_of_lostInstance? hemit hturn hlost

/-- With three ids left, the book on the left gets them all, and the one in the middle ends the
load. -/
theorem stopsWhenExhausted_iff_shelf :
    librarian.decoders.Silent .entityIdsExhausted ∧
      librarian.StopsWhenExhausted shelf (.startingAt (IdAllocator.last - 2)) (nodeId "fresh") ∧
      (librarian.load shelf (.startingAt (IdAllocator.last - 2)) (nodeId "fresh")).2 =
        [idsExhausted "middle"] := by
  have hsilent : librarian.decoders.Silent .entityIdsExhausted :=
    silent_standard DiagnosticCode.noConfusion
  have hnone : ∀ turn ∈ librarian.reached shelf.registry (nodeId "fresh")
      { ids := .startingAt (IdAllocator.last - 2) } shelf.entities,
        (librarian.lostInstance? shelf.registry (nodeId "fresh") turn).isSome = false := by
    decide +kernel
  have hstops := (stopsWhenExhausted_iff librarian shelf (.startingAt (IdAllocator.last - 2))
    (nodeId "fresh") hsilent rfl).1
  refine ⟨hsilent, hstops.2 fun n turn hturn hlost => ?_, by decide +kernel⟩
  rw [hnone turn (List.mem_of_getElem? hturn)] at hlost
  cases hlost

/-- With one id left, the book on the left gets its place and loses its pages, and then the one in
the middle is looked at and reported too. -/
theorem not_stopsWhenExhausted_shelf :
    (librarian.load shelf (.startingAt IdAllocator.last) (nodeId "fresh")).2 =
        [(InstanceError.idsExhausted "book" "left").diagnostic, idsExhausted "middle"] ∧
      ¬librarian.StopsWhenExhausted shelf (.startingAt IdAllocator.last) (nodeId "fresh") :=
  ⟨by decide +kernel, fun ⟨honce, _⟩ => absurd honce (by decide +kernel)⟩

end Loader

end SceneLoad
