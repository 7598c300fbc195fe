import SceneLoad.Proofs.DecodedEntries
import SceneLoad.Proofs.Pass

/-!
# Entities that lack a component

`Entity.without` is an entity without its component of a kind. If it has the same id all the same,
it enters a pass as the entity does. Then its record lacks what was decoded of the component
(`enter_without`), and the log lacks what was reported of it (`seedDiagnostics_without`). Only the
component that gives the entity its id can make a difference to that (`authoredId?_without_of_ne`).
-/

namespace SceneLoad

/-- The entity without one of its components. -/
def Entity.without (kind : String) (entity : Entity) : Entity :=
  { entity with components := Object.erase kind entity.components }

/-- The record without one of its components. -/
def Record.without (kind : String) (record : Record) : Record :=
  { record with components := SortedMap.erase kind record.components }

namespace Loader

/-- What is reported of an entity's component of a kind. -/
def reportsOf (self : Loader) (kind seed : String) (entity : Entity) : List Diagnostic :=
  (self.decoders.decodeEntries seed
    (entity.components.filter fun (k, _) => k = kind)).diagnostics

variable {self : Loader} {kind : String} {entity : Entity}

theorem authoredId?_without_of_ne (hkind : PersistentId.kind ≠ kind) :
    self.authoredId? (entity.without kind) = self.authoredId? entity := by
  have hfind : Object.find? (entity.without kind).components PersistentId.kind =
      Object.find? entity.components PersistentId.kind := Object.find?_erase_of_ne hkind _
  unfold authoredId? componentId?
  rw [hfind]
  rfl

theorem without_seedRecord (runtimeId : EntityId) (persistentId : String)
    (components : SortedMap String DecodedComponent) :
    (seedRecord entity runtimeId persistentId components).without kind =
      seedRecord entity runtimeId persistentId (SortedMap.erase kind components) :=
  rfl

variable (hid : self.authoredId? (entity.without kind) = self.authoredId? entity)
  (supply : KeySupply) (state : PassState)

include hid

theorem resolveId_without (drawn : Nat) :
    self.resolveId supply (entity.without kind) drawn = self.resolveId supply entity drawn := by
  unfold resolveId
  rw [hid]

theorem seedId_without :
    self.seedId supply state (entity.without kind) = self.seedId supply state entity :=
  congrArg Prod.fst (resolveId_without hid supply state.drawn)

/-- The entity enters as it would with the component, and its record lacks that. -/
theorem enter_without :
    self.enter supply state (entity.without kind) =
      (self.enter supply state entity).map fun (entered, own) =>
        (entered, own.map (Record.without kind)) := by
  have hidentified : self.identified supply state (entity.without kind) =
      self.identified supply state entity := by
    unfold identified
    rw [seedId_without hid, resolveId_without hid]
  unfold enter
  rw [seedId_without hid, hidentified]
  split_ifs
  · rw [Option.map_map]
    congr 1
    funext next
    simp only [Function.comp_apply, List.map_cons, List.map_nil, without_seedRecord]
    rw [← DecoderRegistry.components_decodeEntries_erase]
    rfl
  · rfl

/-- What is reported of the entity lacks what is reported of the component. -/
theorem seedDiagnostics_without (hkeys : (Object.keys entity.components).Nodup) :
    ∃ first rest,
      self.seedDiagnostics supply state entity =
          first ++ self.reportsOf kind (self.seedId supply state entity) entity ++ rest ∧
        self.seedDiagnostics supply state (entity.without kind) = first ++ rest := by
  obtain ⟨before, after, hsplit, herase⟩ := Object.exists_split kind hkeys
  unfold seedDiagnostics
  rw [seedId_without hid]
  refine ⟨(if self.seedId supply state entity ∈ state.seen then
      [reusedId (self.seedId supply state entity)] else []) ++
        (self.decoders.decodeEntries (self.seedId supply state entity) before).diagnostics,
    (self.decoders.decodeEntries (self.seedId supply state entity) after).diagnostics, ?_, ?_⟩
  · dsimp only
    conv_lhs => rw [hsplit]
    rw [DecoderRegistry.diagnostics_decodeEntries_append,
      DecoderRegistry.diagnostics_decodeEntries_append, reportsOf]
    simp only [List.append_assoc]
  · dsimp only [Entity.without]
    rw [herase, DecoderRegistry.diagnostics_decodeEntries_append, List.append_assoc]

end Loader

end SceneLoad
