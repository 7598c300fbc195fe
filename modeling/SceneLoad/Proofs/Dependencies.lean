import Mathlib.Logic.Relation
import SceneLoad.Proofs.DependencySearch

/-!
# Registries without dependency cycles

The definitions of a registry and their dependencies are a graph (`DependsOn`). A registration is
accepted when the search from the new definition's dependencies does not meet its id, and then those
dependencies lie in a closed set without it (`exists_closed_of_cycleThrough_eq_none`).

Such a set stays closed when the definition is stored, also in place of an earlier one, so no cycle
goes through it, and a cycle elsewhere was there before (`acyclic_register`). `registry_after_calls`
is the invariant of every history of calls.
-/

namespace SceneLoad

namespace PrefabRegistry

/-- No definition depends on itself, be it through others. -/
def Acyclic (registry : PrefabRegistry) : Prop :=
  ∀ id, ¬Relation.TransGen registry.DependsOn id id

/-! ## Registration -/

theorem register_eq_ok {registry registry' : PrefabRegistry} {definition : Definition}
    (h : registry.register definition = .ok registry') :
    registry.cycleThrough definition = none ∧
      registry' = ⟨SortedMap.insert definition.id definition registry.definitions⟩ := by
  unfold register at h
  cases hcycle : registry.cycleThrough definition with
  | some cycle => simp [hcycle] at h
  | none =>
    simp only [hcycle] at h
    exact ⟨rfl, (Except.ok.inj h).symm⟩

theorem get?_register {registry registry' : PrefabRegistry} {definition : Definition}
    (h : registry.register definition = .ok registry') :
    registry'.get? definition.id = some definition := by
  obtain ⟨-, rfl⟩ := register_eq_ok h
  rw [get?, SortedMap.find?_insert, if_pos rfl]

theorem dependencies_insert (registry : PrefabRegistry) (definition : Definition) (id : String) :
    dependencies ⟨SortedMap.insert definition.id definition registry.definitions⟩ id =
      if id = definition.id then definition.dependencies else registry.dependencies id := by
  unfold dependencies get?
  rw [SortedMap.find?_insert]
  by_cases h : id = definition.id <;> simp [h]

/-- From inside a closed set, dependencies do not lead out of it. -/
theorem mem_of_transGen {registry : PrefabRegistry} {entered : List String}
    (hclosed : ∀ id ∈ entered, registry.dependencies id ⊆ entered) {a b : String}
    (ha : registry.dependencies a ⊆ entered) (h : Relation.TransGen registry.DependsOn a b) :
    b ∈ entered := by
  induction h with
  | single hab => exact ha hab
  | tail _ hbc ih => exact hclosed _ ih hbc

/-- A chain of dependencies that are new or old either is old or passes through the new
definition. -/
theorem transGen_insert {registry registry' : PrefabRegistry} {id : String}
    (hold : ∀ a, a ≠ id → registry'.dependencies a = registry.dependencies a) {a b : String}
    (h : Relation.TransGen registry'.DependsOn a b) :
    Relation.TransGen registry.DependsOn a b ∨
      Relation.ReflTransGen registry'.DependsOn a id ∧
        Relation.TransGen registry'.DependsOn id b := by
  induction h with
  | @single b hab =>
    by_cases ha : a = id
    · subst ha
      exact .inr ⟨.refl, .single hab⟩
    · exact .inl (.single (by simpa only [DependsOn, hold a ha] using hab))
  | @tail b c hab hbc ih =>
    by_cases hb : b = id
    · subst hb
      exact .inr ⟨hab.to_reflTransGen, .single hbc⟩
    · rcases ih with ih | ⟨hto, hfrom⟩
      · exact .inl (ih.tail (by simpa only [DependsOn, hold b hb] using hbc))
      · exact .inr ⟨hto, hfrom.tail hbc⟩

/-- An accepted definition closes no cycle, whether its id is new or not. -/
theorem acyclic_register {registry registry' : PrefabRegistry} {definition : Definition}
    (hacyclic : registry.Acyclic) (h : registry.register definition = .ok registry') :
    registry'.Acyclic := by
  obtain ⟨hcycle, rfl⟩ := register_eq_ok h
  obtain ⟨entered, hdeps, hid, hclosed⟩ := exists_closed_of_cycleThrough_eq_none hcycle
  set registry' : PrefabRegistry :=
    ⟨SortedMap.insert definition.id definition registry.definitions⟩
  have hnew : registry'.dependencies definition.id = definition.dependencies := by
    rw [dependencies_insert, if_pos rfl]
  have hold : ∀ a, a ≠ definition.id → registry'.dependencies a = registry.dependencies a :=
    fun a ha => by rw [dependencies_insert, if_neg ha]
  -- The set stays closed, because the definition that changes is not in it.
  have hclosed' : ∀ a ∈ entered, registry'.dependencies a ⊆ entered := by
    intro a ha
    rw [hold a fun heq => hid (heq ▸ ha)]
    exact hclosed a ha
  intro a hcycle'
  rcases transGen_insert hold hcycle' with hcycle' | ⟨hto, hfrom⟩
  · exact hacyclic a hcycle'
  · have hself : Relation.TransGen registry'.DependsOn definition.id definition.id :=
      hfrom.trans_left hto
    exact hid (mem_of_transGen hclosed' (hnew ▸ hdeps) hself)

/-- What holds of every registry that is filled by registrations. -/
structure WellFormed (registry : PrefabRegistry) : Prop where
  acyclic : registry.Acyclic
  /-- A definition is stored under its own id. -/
  key_eq_id : ∀ entry ∈ registry.definitions, entry.1 = entry.2.id

theorem wellFormed_empty : empty.WellFormed where
  acyclic := by
    intro id hcycle
    obtain ⟨next, hnext, -⟩ := Relation.TransGen.head'_iff.1 hcycle
    exact List.not_mem_nil hnext
  key_eq_id := fun _ hentry => absurd hentry List.not_mem_nil

theorem wellFormed_register {registry registry' : PrefabRegistry} {definition : Definition}
    (hwf : registry.WellFormed) (h : registry.register definition = .ok registry') :
    registry'.WellFormed := by
  refine ⟨acyclic_register hwf.acyclic h, fun entry hentry => ?_⟩
  obtain ⟨-, rfl⟩ := register_eq_ok h
  rcases SortedMap.mem_insert hentry with rfl | hentry
  · rfl
  · exact hwf.key_eq_id entry hentry

/-! ## Histories of calls -/

/-- The registry after one attempt to register; a refusal gives no new registry. -/
def attempt (registry : PrefabRegistry) (definition : Definition) : PrefabRegistry :=
  match registry.register definition with
  | .ok registry => registry
  | .error _ => registry

theorem attempt_eq_self {registry : PrefabRegistry} {definition : Definition} {error : CycleError}
    (h : registry.register definition = .error error) : registry.attempt definition = registry := by
  rw [attempt, h]

theorem wellFormed_attempt {registry : PrefabRegistry} (hwf : registry.WellFormed)
    (definition : Definition) : (registry.attempt definition).WellFormed := by
  unfold attempt
  cases h : registry.register definition with
  | ok registry' => exact wellFormed_register hwf h
  | error error => exact hwf

/-- Registering definitions in order is one attempt after another. -/
theorem registerAll_eq_foldl : ∀ (registry : PrefabRegistry) (definitions : List Definition),
    (registry.registerAll definitions).1 = definitions.foldl attempt registry
  | _, [] => rfl
  | registry, definition :: rest => by
    rw [List.foldl_cons, ← registerAll_eq_foldl _ rest, registerAll, attempt]
    cases registry.register definition <;> rfl

theorem wellFormed_foldl : ∀ {registry : PrefabRegistry} (definitions : List Definition),
    registry.WellFormed → (definitions.foldl attempt registry).WellFormed
  | _, [], hwf => hwf
  | _, definition :: rest, hwf => wellFormed_foldl rest (wellFormed_attempt hwf definition)

/-- A call that may change a registry. -/
inductive Call where
  | register (definition : Definition)
  | registerAll (definitions : List Definition)

/-- The registry after a call. -/
def Call.run (registry : PrefabRegistry) : Call → PrefabRegistry
  | .register definition => registry.attempt definition
  | .registerAll definitions => (registry.registerAll definitions).1

/-- The registry after calls on an empty one. -/
def afterCalls (calls : List Call) : PrefabRegistry := calls.foldl Call.run empty

theorem wellFormed_run {registry : PrefabRegistry} (hwf : registry.WellFormed) :
    ∀ call : Call, (call.run registry).WellFormed
  | .register definition => wellFormed_attempt hwf definition
  | .registerAll definitions => by
    rw [Call.run, registerAll_eq_foldl]
    exact wellFormed_foldl definitions hwf

theorem wellFormed_foldl_run : ∀ {registry : PrefabRegistry} (calls : List Call),
    registry.WellFormed → (calls.foldl Call.run registry).WellFormed
  | _, [], hwf => hwf
  | _, call :: rest, hwf => wellFormed_foldl_run rest (wellFormed_run hwf call)

/-- After any calls, no definition depends on itself and each is stored under its own id. One that
is accepted is found there, and one that is refused, alone or among others, has changed nothing. -/
theorem registry_after_calls (calls : List Call) :
    (afterCalls calls).Acyclic ∧
      (∀ entry ∈ (afterCalls calls).definitions, entry.1 = entry.2.id) ∧
      (∀ definition registry', (afterCalls calls).register definition = .ok registry' →
        (afterCalls (calls ++ [.register definition])).get? definition.id = some definition) ∧
      (∀ definition error, (afterCalls calls).register definition = .error error →
        afterCalls (calls ++ [.register definition]) = afterCalls calls) ∧
      ∀ before definition after error,
        ((afterCalls calls).registerAll before).1.register definition = .error error →
          afterCalls (calls ++ [.registerAll (before ++ definition :: after)]) =
            afterCalls (calls ++ [.registerAll (before ++ after)]) := by
  have hwf : (afterCalls calls).WellFormed := wellFormed_foldl_run calls wellFormed_empty
  refine ⟨hwf.acyclic, hwf.key_eq_id, fun definition registry' h => ?_,
    fun definition error h => ?_, fun before definition after error h => ?_⟩
  · rw [afterCalls, List.foldl_append]
    show ((afterCalls calls).attempt definition).get? definition.id = some definition
    rw [attempt, h]
    exact get?_register h
  · rw [afterCalls, List.foldl_append]
    exact attempt_eq_self h
  · rw [registerAll_eq_foldl] at h
    rw [afterCalls, afterCalls, List.foldl_append, List.foldl_append]
    show ((afterCalls calls).registerAll _).1 = ((afterCalls calls).registerAll _).1
    rw [registerAll_eq_foldl, registerAll_eq_foldl, List.foldl_append, List.foldl_append,
      List.foldl_cons, attempt_eq_self h]

end PrefabRegistry

end SceneLoad
