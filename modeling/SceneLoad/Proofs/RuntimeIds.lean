import Mathlib.Tactic.SplitIfs
import SceneLoad.Proofs.Pass
import SceneLoad.Proofs.Preorder

/-!
# Runtime ids of a pass

Ids are drawn in two places, for entities and for the nodes of instances, and an instance that the
ids do not suffice for loses those that it has drawn already. Still no gap appears among the
records. Such an instance fails only when no id is left, so nothing is recorded after it. This is
`Spends` : the ids of the records were handed out one after another, and either no other was, or all
are used up. Parts of a pass compose (`Spends.trans`), so the ids of all its records are the numbers
from the first one on (`runtimeIds_load`).
-/

namespace SceneLoad

namespace IdAllocator

/-- Handing out these ids one after another leads from one allocator to the other. -/
inductive Issues : IdAllocator → List EntityId → IdAllocator → Prop
  | nil (allocator : IdAllocator) : Issues allocator [] allocator
  | cons {before next after : IdAllocator} {id : EntityId} {ids : List EntityId}
      (hid : before.allocate = some (id, next)) (hids : Issues next ids after) :
      Issues before (id :: ids) after

/-- These ids were handed out, and any others only at the cost of all that were left. -/
def Spends (before : IdAllocator) (ids : List EntityId) (after : IdAllocator) : Prop :=
  ∃ between, Issues before ids between ∧ (after = between ∨ after.next = none)

variable {before between after : IdAllocator} {ids ids' : List EntityId}

theorem next_eq_none_of_allocate (h : before.allocate = none) : before.next = none := by
  unfold allocate at h
  split at h
  · assumption
  · cases h

theorem Issues.append (h : Issues before ids between) (h' : Issues between ids' after) :
    Issues before (ids ++ ids') after := by
  induction h with
  | nil allocator => exact h'
  | cons hid _ ih => exact .cons hid (ih h')

/-- Nothing is handed out after the last id. -/
theorem Issues.of_exhausted (h : Issues before ids after) (hnone : before.next = none) :
    ids = [] ∧ after = before := by
  cases h with
  | nil allocator => exact ⟨rfl, rfl⟩
  | cons hid _ =>
    simp only [allocate, hnone] at hid
    cases hid

theorem Issues.spends (h : Issues before ids after) : Spends before ids after :=
  ⟨after, h, .inl rfl⟩

theorem Spends.trans (h : Spends before ids between) (h' : Spends between ids' after) :
    Spends before (ids ++ ids') after := by
  obtain ⟨mid, hids, hbetween⟩ := h
  obtain ⟨mid', hids', hafter⟩ := h'
  rcases hbetween with rfl | hnone
  · exact ⟨mid', hids.append hids', hafter⟩
  · obtain ⟨rfl, rfl⟩ := hids'.of_exhausted hnone
    rw [List.append_nil]
    refine ⟨mid, hids, .inr ?_⟩
    rcases hafter with rfl | hafter
    · exact hnone
    · exact hafter

/-- Only the last id has none after it. -/
theorem toNat_succ {id : UInt64} (h : id ≠ last) : (id + 1).toNat = id.toNat + 1 := by
  have hne : id.toNat ≠ last.toNat := fun heq => h (UInt64.toNat_inj.1 heq)
  have hle : id.toNat ≤ last.toNat := Nat.le_of_lt_succ id.toNat_lt_size
  rw [UInt64.toNat_add, UInt64.toNat_one]
  exact Nat.mod_eq_of_lt (Nat.succ_lt_succ (Nat.lt_of_le_of_ne hle hne))

/-- Ids are consecutive numbers, and none of them is beyond 64 bits. -/
theorem Issues.consecutive (h : Issues before ids after) :
    ∀ {first : UInt64}, before.next = some first →
      ids.map (fun id => id.value.toNat) = List.range' first.toNat ids.length ∧
        first.toNat + ids.length ≤ UInt64.size := by
  induction h with
  | nil allocator =>
    intro first _
    exact ⟨rfl, Nat.le_of_lt first.toNat_lt_size⟩
  | @cons before next after id ids hid hids ih =>
    intro first hfirst
    simp only [allocate, hfirst, Option.some.injEq, Prod.mk.injEq] at hid
    obtain ⟨rfl, rfl⟩ := hid
    by_cases hlast : first = last
    · obtain ⟨rfl, -⟩ := hids.of_exhausted (if_pos hlast)
      exact ⟨by simp, first.toNat_lt_size⟩
    · obtain ⟨hvalues, hbound⟩ := ih (if_neg hlast)
      rw [toNat_succ hlast] at hvalues hbound
      rw [List.map_cons, hvalues, List.length_cons, List.range'_succ]
      exact ⟨rfl, by omega⟩

end IdAllocator

open IdAllocator

/-! ## Instances -/

/-- Each record that a walk builds has the next id, whether the walk is cut short or not. -/
theorem issues_stamp (self : Instantiator) (prefabId key : String) :
    ∀ (visits : List Visit) (ids : IdAllocator),
      Issues ids ((stamp self prefabId key ids visits).records.map Record.runtimeId)
        (stamp self prefabId key ids visits).ids
  | [], ids => .nil ids
  | .tooDeep _ :: rest, ids => issues_stamp self prefabId key rest ids
  | .nested _ :: rest, ids => issues_stamp self prefabId key rest ids
  | .kept item number :: rest, ids => by
    rw [stamp]
    cases hids : ids.allocate with
    | none => exact .nil ids
    | some next => exact .cons hids (issues_stamp self prefabId key rest next.2)

/-- A walk is cut short only when no id is left. -/
theorem exhausted_stamp (self : Instantiator) (prefabId key : String) :
    ∀ (visits : List Visit) (ids : IdAllocator),
      (stamp self prefabId key ids visits).complete = false →
        (stamp self prefabId key ids visits).ids.next = none
  | .tooDeep _ :: rest, ids, h => exhausted_stamp self prefabId key rest ids h
  | .nested _ :: rest, ids, h => exhausted_stamp self prefabId key rest ids h
  | .kept item number :: rest, ids, h => by
    rw [stamp] at h ⊢
    cases hids : ids.allocate with
    | none => exact next_eq_none_of_allocate hids
    | some next =>
      simp only [hids] at h ⊢
      exact exhausted_stamp self prefabId key rest next.2 h

theorem spends_instantiate (self : Instantiator) (supply : KeySupply) (request : InstanceRequest)
    (ids : IdAllocator) (drawn : Nat) :
    Spends ids
      (((self.instantiate supply request ids drawn).result.toOption.getD []).map Record.runtimeId)
      (self.instantiate supply request ids drawn).ids := by
  unfold Instantiator.instantiate
  cases self.prefabs.get? request.prefabId with
  | none => exact (Issues.nil ids).spends
  | some definition =>
    simp only [walk_eq_stamp]
    split_ifs with hcomplete
    · exact (issues_stamp self definition.id _ _ ids).spends
    · have hnone := exhausted_stamp self definition.id _ _ ids (Bool.eq_false_iff.2 hcomplete)
      exact ⟨ids, .nil ids, .inr hnone⟩

/-! ## Turns and passes -/

namespace Loader

variable {self : Loader} {prefabs : PrefabRegistry} {supply : KeySupply}
  {state state' : PassState} {entity : Entity} {output : PassOutput}

theorem spends_enter {entered : PassState} {own : List Record}
    (h : self.enter supply state entity = some (entered, own)) :
    Spends state.ids (own.map Record.runtimeId) entered.ids := by
  rcases enter_cases h with ⟨-, id, ids, hids, rfl, rfl⟩ | ⟨-, rfl, rfl⟩
  · exact (Issues.cons hids (.nil ids)).spends
  · exact (Issues.nil _).spends

theorem spends_expand (self : Loader) (prefabs : PrefabRegistry) (supply : KeySupply)
    (state : PassState) (marker : PrefabInstance) (seed : String) :
    Spends state.ids
      ((self.expand prefabs supply state marker seed).2.records.map Record.runtimeId)
      (self.expand prefabs supply state marker seed).1.ids := by
  rw [ids_expand, records_expand_eq]
  exact spends_instantiate ..

/-- What a turn records takes the next ids. -/
theorem spends_of_step_next (h : self.step prefabs supply state entity = .next state' output) :
    Spends state.ids (output.records.map Record.runtimeId) state'.ids := by
  obtain ⟨entered, own, henter, hcases⟩ := step_next_cases h
  have hown := spends_enter henter
  rcases hcases with ⟨-, rfl, rfl⟩ | ⟨marker, -, rfl, rfl⟩
  · exact hown
  · have hexpand := spends_expand self prefabs supply entered marker
      (self.seedId supply state entity)
    have happend := hown.trans hexpand
    rw [← List.map_append] at happend
    exact happend

/-- What a pass records takes the next ids. -/
theorem spends_run (self : Loader) (prefabs : PrefabRegistry) (supply : KeySupply) :
    ∀ (state : PassState) (entities : List Entity), ∃ after,
      Spends state.ids
        ((self.run prefabs supply state entities).records.map Record.runtimeId) after
  | state, [] => ⟨state.ids, (Issues.nil _).spends⟩
  | state, entity :: rest => by
    rw [run]
    cases hstep : self.step prefabs supply state entity with
    | stop output =>
      obtain ⟨-, hrecords⟩ := enter_of_step_stop hstep
      exact ⟨state.ids, by simpa [hrecords] using (Issues.nil state.ids).spends⟩
    | next state' output =>
      obtain ⟨after, hrest⟩ := spends_run self prefabs supply state' rest
      have happend := (spends_of_step_next hstep).trans hrest
      rw [← List.map_append] at happend
      exact ⟨after, happend⟩

/-- The records of a pass are numbered from the first id on, without a gap and within 64 bits. -/
theorem runtimeIds_load (self : Loader) (document : Document) (first : UInt64)
    (supply : KeySupply) :
    (self.load document (.startingAt first) supply).1.records.map
        (fun record => record.runtimeId.value.toNat) =
      List.range' first.toNat
        (self.load document (.startingAt first) supply).1.records.length ∧
      first.toNat + (self.load document (.startingAt first) supply).1.records.length ≤
        UInt64.size := by
  obtain ⟨after, between, hissues, -⟩ :=
    spends_run self document.registry supply { ids := .startingAt first } document.entities
  have hconsecutive := hissues.consecutive rfl
  rw [List.map_map, List.length_map] at hconsecutive
  exact hconsecutive

end Loader

end SceneLoad
