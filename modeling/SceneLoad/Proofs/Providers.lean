import SceneLoad.Proofs.Dependencies
import SceneLoad.Proofs.EditedTemplates
import SceneLoad.Proofs.Pass

/-!
# Where registered prefabs come from

A document may have several prefabs with one id, and some that are refused. `Document.provider?`
tells which of them an id is registered from in the end, by its position, and `get?_registry` that
it is this one's definition that is registered.

Whether a prefab is registered is decided by its id and its dependencies. So if prefabs are changed
in nothing else (`PrefabAlike`), the same is registered from the same places and the same is refused
(`registry_alike`). A prefab without one of its components is such a change
(`registry_withoutPrefabComponent`).
-/

namespace SceneLoad

namespace PrefabRegistry

/-- The position of the prefab that an id is registered from, if it is from one of those from
`index` on. -/
def providerFrom (id : String) : PrefabRegistry → Nat → List Json → Option Nat
  | _, _, [] => none
  | registry, index, value :: rest =>
    match Definition.parse index value with
    | .error _ => providerFrom id registry (index + 1) rest
    | .ok definition =>
      (providerFrom id (registry.attempt definition) (index + 1) rest).or
        (if definition.id = id ∧ (registry.cycleThrough definition).isNone then some index
          else none)

theorem le_of_providerFrom {id : String} : ∀ {registry : PrefabRegistry} {index : Nat}
    {values : List Json} {position : Nat},
    providerFrom id registry index values = some position → index ≤ position
  | _, _, [], _, h => by simp [providerFrom] at h
  | registry, index, value :: rest, position, h => by
    rw [providerFrom] at h
    split at h
    · have hrest := le_of_providerFrom h
      omega
    · rcases Option.or_eq_some_iff.1 h with hrest | ⟨-, hhere⟩
      · have hrest := le_of_providerFrom hrest
        omega
      · split_ifs at hhere
        exact Nat.le_of_eq (Option.some.inj hhere)

theorem get?_attempt (registry : PrefabRegistry) (definition : Definition) (id : String) :
    (registry.attempt definition).get? id =
      if definition.id = id ∧ (registry.cycleThrough definition).isNone then some definition
      else registry.get? id := by
  unfold attempt register
  cases registry.cycleThrough definition with
  | some cycle => simp
  | none =>
    dsimp only
    rw [get?, SortedMap.find?_insert]
    by_cases hid : id = definition.id
    · simp [hid]
    · simp [hid, Ne.symm hid, get?]

/-- After more prefabs, an id has the definition of its provider, or the one that it had. -/
theorem get?_registerAll (id : String) : ∀ (registry : PrefabRegistry) (index : Nat)
    (values : List Json),
    (registry.registerAll (Definition.parseFrom index values).1).1.get? id =
      match providerFrom id registry index values with
      | none => registry.get? id
      | some position =>
        values[position - index]?.bind fun value =>
          (Definition.parse position value).toOption
  | _, _, [] => rfl
  | registry, index, value :: rest => by
    have hshift : ∀ position, index + 1 ≤ position →
        (value :: rest)[position - index]? = rest[position - (index + 1)]? := by
      intro position hle
      rw [show position - index = position - (index + 1) + 1 by omega, List.getElem?_cons_succ]
    rw [Definition.parseFrom, providerFrom]
    cases hparse : Definition.parse index value with
    | error diagnostic =>
      dsimp only
      rw [get?_registerAll id registry (index + 1) rest]
      cases hprovider : providerFrom id registry (index + 1) rest with
      | none => rfl
      | some position =>
        dsimp only
        rw [hshift position (le_of_providerFrom hprovider)]
    | ok definition =>
      dsimp only
      rw [registerAll_eq_foldl, List.foldl_cons, ← registerAll_eq_foldl,
        get?_registerAll id _ (index + 1) rest]
      cases hprovider : providerFrom id (registry.attempt definition) (index + 1) rest with
      | some position =>
        rw [Option.some_or]
        dsimp only
        rw [hshift position (le_of_providerFrom hprovider)]
      | none =>
        rw [Option.none_or, get?_attempt]
        dsimp only
        split_ifs with hhere
        · simp [hparse, Except.toOption]
        · rfl

end PrefabRegistry

/-- The position of the prefab that an id is registered from. -/
def Document.provider? (document : Document) (id : String) : Option Nat :=
  PrefabRegistry.empty.providerFrom id 0 document.prefabs

/-- What is registered under an id is what its provider defines. -/
theorem get?_registry (document : Document) (id : String) :
    document.registry.get? id = (document.provider? id).bind fun position =>
      document.prefabs[position]?.bind fun value =>
        (Definition.parse position value).toOption := by
  have hget := PrefabRegistry.get?_registerAll id .empty 0 document.prefabs
  show (PrefabRegistry.empty.registerAll (Definition.parseFrom 0 document.prefabs).1).1.get? id = _
  rw [hget, Document.provider?]
  cases PrefabRegistry.empty.providerFrom id 0 document.prefabs with
  | none => rfl
  | some position => rfl

/-! ## Prefabs that are registered alike -/

/-- Two attempts to parse a prefab that come to the same, apart from what the definition is of. -/
inductive ParsedAlike : Except Diagnostic Definition → Except Diagnostic Definition → Prop
  | error (diagnostic : Diagnostic) : ParsedAlike (.error diagnostic) (.error diagnostic)
  | ok {definition definition' : Definition} (hid : definition.id = definition'.id)
      (hdependencies : definition.dependencies = definition'.dependencies) :
      ParsedAlike (.ok definition) (.ok definition')

/-- Two prefabs that differ in their templates and the like, but not in id and dependencies. -/
def PrefabAlike (value value' : Json) : Prop :=
  ∀ index, ParsedAlike (Definition.parse index value) (Definition.parse index value')

theorem prefabAlike_refl (value : Json) : PrefabAlike value value := by
  intro index
  cases Definition.parse index value with
  | error diagnostic => exact .error diagnostic
  | ok definition => exact .ok rfl rfl

namespace PrefabRegistry

/-- Two registries with the same ids, and the same dependencies of each. -/
structure Alike (left right : PrefabRegistry) : Prop where
  ids : left.ids = right.ids
  dependencies : left.dependencies = right.dependencies

variable {left right : PrefabRegistry} {definition definition' : Definition}

theorem search_congr (h : left.dependencies = right.dependencies) (target : String) :
    ∀ fuel, left.search target fuel = right.search target fuel
  | 0 => rfl
  | fuel + 1 => by
    funext visited ids
    rw [search, search, search_congr h target fuel, h]

theorem cycleThrough_alike (h : Alike left right) (hid : definition.id = definition'.id)
    (hdependencies : definition.dependencies = definition'.dependencies) :
    left.cycleThrough definition = right.cycleThrough definition' := by
  have hsize : left.size = right.size := by
    simpa [ids, SortedMap.keys, size] using congrArg List.length h.ids
  unfold cycleThrough
  rw [search_congr h.dependencies, hsize, hid, hdependencies]

theorem keys_insert_congr (key : String) (value value' : Definition) :
    ∀ {map map' : SortedMap String Definition}, SortedMap.keys map = SortedMap.keys map' →
      SortedMap.keys (SortedMap.insert key value map) =
        SortedMap.keys (SortedMap.insert key value' map')
  | [], [], _ => rfl
  | [], _ :: _, h => by simp [SortedMap.keys] at h
  | _ :: _, [], h => by simp [SortedMap.keys] at h
  | (first, stored) :: rest, (first', stored') :: rest', h => by
    obtain ⟨hfirst, hrest⟩ := List.cons.inj h
    obtain rfl : first = first' := hfirst
    rw [SortedMap.insert, SortedMap.insert]
    split_ifs
    · exact congrArg (key :: ·) h
    · exact congrArg (key :: ·) hrest
    · exact congrArg (first :: ·) (keys_insert_congr key value value' hrest)

theorem attempt_alike (h : Alike left right) (hid : definition.id = definition'.id)
    (hdependencies : definition.dependencies = definition'.dependencies) :
    Alike (left.attempt definition) (right.attempt definition') := by
  have hcycle := cycleThrough_alike h hid hdependencies
  unfold attempt register
  rw [← hcycle]
  cases left.cycleThrough definition with
  | some cycle => exact h
  | none =>
    refine ⟨?_, ?_⟩
    · show SortedMap.keys (SortedMap.insert definition.id definition left.definitions) = _
      rw [hid]
      exact keys_insert_congr _ _ _ h.ids
    · funext id
      rw [dependencies_insert, dependencies_insert, hid, hdependencies, h.dependencies]

theorem refused_registerAll_cons (registry : PrefabRegistry) (definition : Definition)
    (rest : List Definition) :
    (registry.registerAll (definition :: rest)).2.2 =
      ((registry.cycleThrough definition).map fun cycle =>
        (CycleError.mk definition.id cycle).diagnostic).toList ++
        ((registry.attempt definition).registerAll rest).2.2 := by
  rw [registerAll]
  unfold attempt register
  cases registry.cycleThrough definition with
  | some cycle => rfl
  | none => rfl

/-- From registries that are alike, prefabs that are alike are registered and refused alike. -/
theorem registerAll_alike : ∀ (index : Nat) {left right : PrefabRegistry}
    {values values' : List Json}, List.Forall₂ PrefabAlike values values' → Alike left right →
      (Definition.parseFrom index values).2 = (Definition.parseFrom index values').2 ∧
        (left.registerAll (Definition.parseFrom index values).1).2.2 =
          (right.registerAll (Definition.parseFrom index values').1).2.2 ∧
        (left.registerAll (Definition.parseFrom index values).1).1.ids =
          (right.registerAll (Definition.parseFrom index values').1).1.ids ∧
        ∀ id, left.providerFrom id index values = right.providerFrom id index values'
  | _, _, _, _, _, .nil, h => ⟨rfl, rfl, h.ids, fun _ => rfl⟩
  | index, left, right, value :: rest, value' :: rest', .cons hvalue hrest, h => by
    have hparsed := hvalue index
    simp only [Definition.parseFrom, providerFrom]
    cases hparse : Definition.parse index value with
    | error diagnostic =>
      cases hparse' : Definition.parse index value' with
      | ok definition' =>
        rw [hparse, hparse'] at hparsed
        cases hparsed
      | error diagnostic' =>
        rw [hparse, hparse'] at hparsed
        cases hparsed
        obtain ⟨hunparsed, hrefused, hids, hproviders⟩ := registerAll_alike (index + 1) hrest h
        exact ⟨congrArg (diagnostic :: ·) hunparsed, hrefused, hids, hproviders⟩
    | ok definition =>
      cases hparse' : Definition.parse index value' with
      | error diagnostic' =>
        rw [hparse, hparse'] at hparsed
        cases hparsed
      | ok definition' =>
        rw [hparse, hparse'] at hparsed
        obtain ⟨hid, hdependencies⟩ : definition.id = definition'.id ∧
            definition.dependencies = definition'.dependencies := by
          cases hparsed with
          | ok hid hdependencies => exact ⟨hid, hdependencies⟩
        have hcycle := cycleThrough_alike h hid hdependencies
        obtain ⟨hunparsed, hrefused, hids, hproviders⟩ := registerAll_alike (index + 1) hrest
          (attempt_alike h hid hdependencies)
        refine ⟨hunparsed, ?_, ?_, fun id => ?_⟩
        · dsimp only
          rw [refused_registerAll_cons, refused_registerAll_cons, hrefused, hcycle, hid]
        · dsimp only
          rw [registerAll_eq_foldl, registerAll_eq_foldl, List.foldl_cons, List.foldl_cons,
            ← registerAll_eq_foldl, ← registerAll_eq_foldl, hids]
        · dsimp only
          rw [hproviders, hcycle, hid]

end PrefabRegistry

/-- Documents whose prefabs are alike register the same ids from the same places, and report the
same of it. -/
theorem registry_alike {document document' : Document}
    (h : List.Forall₂ PrefabAlike document.prefabs document'.prefabs) :
    (PrefabRegistry.ofJson document.prefabs).2 = (PrefabRegistry.ofJson document'.prefabs).2 ∧
      document.registry.ids = document'.registry.ids ∧
      ∀ id, document.provider? id = document'.provider? id := by
  have hempty : PrefabRegistry.empty.Alike .empty := ⟨rfl, rfl⟩
  obtain ⟨hunparsed, hrefused, hids, hproviders⟩ := PrefabRegistry.registerAll_alike 0 h hempty
  exact ⟨congrArg₂ (· ++ ·) hunparsed hrefused, hids, hproviders⟩

/-- Without a component, a prefab is parsed as it is with it, if it is parsed at all. -/
theorem parse_withoutPrefabComponent {kind : String} {payload value : Json} {address : List Nat}
    {definition : Definition} {node : Template} (h : Definition.read value = .ok definition)
    (hnode : definition.root.at? address = some node)
    (hfind : Object.find? node.components kind = some payload) (index : Nat) :
    Definition.parse index (value.withoutPrefabComponent kind address) =
      (Definition.parse index value).map (Definition.withoutComponent kind address) := by
  rw [Definition.parse, Definition.parse, h, Definition.read_withoutComponent h hnode hfind,
    Definition.label_withoutPrefabComponent]
  dsimp only
  have hid : (definition.withoutComponent kind address).id = definition.id := rfl
  rw [hid]
  split_ifs <;> rfl

/-- Without a component of one prefab, a document registers the same ids from the same places, and
what is registered from that prefab lacks the component. -/
theorem registry_withoutPrefabComponent {document less : Document} {before after : List Json}
    {kind : String} {payload value : Json} {address : List Nat} {definition : Definition}
    {node : Template} (hprefabs : document.prefabs = before ++ value :: after)
    (hless : less.prefabs = before ++ value.withoutPrefabComponent kind address :: after)
    (hread : Definition.read value = .ok definition)
    (hnode : definition.root.at? address = some node)
    (hfind : Object.find? node.components kind = some payload) :
    (PrefabRegistry.ofJson document.prefabs).2 = (PrefabRegistry.ofJson less.prefabs).2 ∧
      document.registry.ids = less.registry.ids ∧
      ∀ id, if document.provider? id = some before.length then
          (∀ found, document.registry.get? id = some found → found = definition) ∧
            less.registry.get? id =
              (document.registry.get? id).map (Definition.withoutComponent kind address)
        else less.registry.get? id = document.registry.get? id := by
  have hparse := parse_withoutPrefabComponent hread hnode hfind
  have hchanged : PrefabAlike value (value.withoutPrefabComponent kind address) := by
    intro index
    rw [hparse]
    cases Definition.parse index value with
    | error diagnostic => exact .error diagnostic
    | ok found => exact .ok rfl rfl
  have hsame : ∀ values : List Json, List.Forall₂ PrefabAlike values values := fun values =>
    List.forall₂_same.2 fun value _ => prefabAlike_refl value
  have halike : List.Forall₂ PrefabAlike document.prefabs less.prefabs := by
    rw [hprefabs, hless]
    exact List.rel_append (hsame before) (.cons hchanged (hsame after))
  obtain ⟨hlog, hids, hproviders⟩ := registry_alike halike
  refine ⟨hlog, hids, fun id => ?_⟩
  rw [get?_registry, get?_registry, ← hproviders]
  split_ifs with hprovider
  · rw [hprovider, hprefabs, hless, Option.bind_some, Option.bind_some,
      List.getElem?_append_right (Nat.le_refl _), List.getElem?_append_right (Nat.le_refl _),
      Nat.sub_self, List.getElem?_cons_zero, List.getElem?_cons_zero, Option.bind_some,
      Option.bind_some, hparse]
    refine ⟨fun found hfound => ?_, ?_⟩
    · rw [Definition.parse, hread] at hfound
      dsimp only at hfound
      split_ifs at hfound
      · cases hfound
      · exact (Option.some.inj hfound).symm
    · cases Definition.parse before.length value <;> rfl
  · cases hposition : document.provider? id with
    | none => rfl
    | some position =>
      have hne : position ≠ before.length := by
        rintro rfl
        exact hprovider hposition
      rw [Option.bind_some, Option.bind_some, hprefabs, hless]
      rcases Nat.lt_or_gt_of_ne hne with hlt | hgt
      · rw [List.getElem?_append_left hlt, List.getElem?_append_left hlt]
      · rw [List.getElem?_append_right (by omega), List.getElem?_append_right (by omega),
          show position - before.length = position - before.length - 1 + 1 by omega,
          List.getElem?_cons_succ, List.getElem?_cons_succ]

end SceneLoad
