import SceneLoad.Proofs.CycleSearch
import SceneLoad.Proofs.Providers

/-!
# The order of registrations

Definitions with different ids make one graph, whatever the order they come in
(`Definition.DependsOn`). A registration sees only the part of it that is stored already, and a
dependency may get its definition later.

While nothing is refused, the registry holds the definitions that came so far (`Holds`), and its
graph is theirs. So the next one is refused exactly if it closes a cycle with them, which is then
one of the whole graph. Nothing at all is refused exactly if the whole graph has no cycle
(`refused_eq_nil_iff`), and this does not depend on the order. What is stored in the end does not
either, because a registry keeps its definitions in the order of their ids (`eq_of_holds`).

A document whose prefabs are all read to such definitions may have them in any order
(`ofJson_perm`).
-/

namespace SceneLoad

namespace Definition

/-- One of the definitions has the id `a` and depends on `b`. -/
def DependsOn (definitions : List Definition) (a b : String) : Prop :=
  ∃ definition ∈ definitions, definition.id = a ∧ b ∈ definition.dependencies

/-- None of the definitions depends on itself, be it through others. -/
def Acyclic (definitions : List Definition) : Prop :=
  ∀ id, ¬Relation.TransGen (DependsOn definitions) id id

theorem DependsOn.mono {definitions definitions' : List Definition} (h : definitions ⊆ definitions')
    {a b : String} : DependsOn definitions a b → DependsOn definitions' a b := by
  rintro ⟨definition, hmem, hid, hdependency⟩
  exact ⟨definition, h hmem, hid, hdependency⟩

theorem Acyclic.anti {definitions definitions' : List Definition} (h : definitions ⊆ definitions')
    (hacyclic : Acyclic definitions') : Acyclic definitions := fun id hcycle =>
  hacyclic id (Relation.TransGen.mono (fun _ _ => DependsOn.mono h) id id hcycle)

/-- Definitions that depend only on what ranks lower make no cycle. -/
theorem acyclic_of_rank {definitions : List Definition} (rank : String → Nat)
    (h : ∀ definition ∈ definitions, ∀ dependency ∈ definition.dependencies,
      rank dependency < rank definition.id) : Acyclic definitions := by
  have hlower : ∀ {a b : String}, Relation.TransGen (DependsOn definitions) a b →
      rank b < rank a := by
    intro a b hreach
    induction hreach with
    | single hedge =>
      obtain ⟨definition, hmem, rfl, hdependency⟩ := hedge
      exact h definition hmem _ hdependency
    | tail _ hedge ih =>
      obtain ⟨definition, hmem, rfl, hdependency⟩ := hedge
      exact Nat.lt_trans (h definition hmem _ hdependency) ih
  exact fun id hcycle => Nat.lt_irrefl _ (hlower hcycle)

end Definition

namespace PrefabRegistry

variable {registry : PrefabRegistry} {definitions : List Definition} {definition : Definition}

/-! ## What a registry holds -/

/-- These definitions are stored under their ids, and nothing else is. -/
def Holds (registry : PrefabRegistry) (definitions : List Definition) : Prop :=
  ∀ id definition,
    registry.get? id = some definition ↔ definition ∈ definitions ∧ definition.id = id

theorem holds_empty : empty.Holds [] := by
  intro id definition
  simp [empty, get?, SortedMap.find?]

theorem Holds.install (h : registry.Holds definitions)
    (hnew : definition.id ∉ definitions.map Definition.id) :
    (registry.install definition).Holds (definitions ++ [definition]) := by
  intro id found
  rw [get?, PrefabRegistry.install, SortedMap.find?_insert, List.mem_append, List.mem_singleton]
  split_ifs with hid
  · subst hid
    constructor
    · rintro ⟨⟩
      exact ⟨.inr rfl, rfl⟩
    · rintro ⟨hmem | rfl, hid⟩
      · exact absurd (hid ▸ List.mem_map_of_mem hmem) hnew
      · rfl
  · rw [← get?, h id found]
    constructor
    · rintro ⟨hmem, hfound⟩
      exact ⟨.inl hmem, hfound⟩
    · rintro ⟨hmem | rfl, hfound⟩
      · exact ⟨hmem, hfound⟩
      · exact absurd hfound.symm hid

/-- The graph of a registry is that of the definitions it holds. -/
theorem Holds.dependsOn (h : registry.Holds definitions) :
    registry.DependsOn = Definition.DependsOn definitions := by
  funext a b
  rw [DependsOn, dependencies, Definition.DependsOn]
  refine propext ⟨fun hdependency => ?_, ?_⟩
  · cases hget : registry.get? a with
    | none => simp [hget] at hdependency
    | some definition =>
      rw [hget] at hdependency
      obtain ⟨hmem, hid⟩ := (h a definition).1 hget
      exact ⟨definition, hmem, hid, hdependency⟩
  · rintro ⟨definition, hmem, hid, hdependency⟩
    rw [(h a definition).2 ⟨hmem, hid⟩]
    exact hdependency

theorem Holds.acyclic_iff (h : registry.Holds definitions) :
    registry.Acyclic ↔ Definition.Acyclic definitions := by
  rw [Acyclic, Definition.Acyclic, h.dependsOn]

/-- Registries with their ids in order that hold the same are equal. -/
theorem eq_of_holds {left right : PrefabRegistry} (hleft : left.ids.Pairwise (· < ·))
    (hright : right.ids.Pairwise (· < ·)) (h : left.Holds definitions)
    (h' : right.Holds definitions) : left = right := by
  obtain ⟨map⟩ := left
  obtain ⟨map'⟩ := right
  have hfind : ∀ id, SortedMap.find? map id = SortedMap.find? map' id := fun id =>
    Option.ext fun definition => (h id definition).trans (h' id definition).symm
  exact congrArg PrefabRegistry.mk (SortedMap.eq_of_find? hleft hright hfind)

theorem pairwise_ids_foldl : ∀ (definitions : List Definition) {registry : PrefabRegistry},
    registry.ids.Pairwise (· < ·) → (definitions.foldl attempt registry).ids.Pairwise (· < ·)
  | [], _, h => h
  | definition :: rest, registry, h => by
    refine pairwise_ids_foldl rest ?_
    rw [attempt, register_eq]
    cases registry.cycleThrough definition with
    | some cycle => exact h
    | none => exact SortedMap.pairwise_insert definition.id definition h

theorem pairwise_ids_registerAll (definitions : List Definition) :
    (empty.registerAll definitions).1.ids.Pairwise (· < ·) := by
  rw [registerAll_eq_foldl]
  exact pairwise_ids_foldl definitions .nil

/-! ## What is refused -/

/-- A refused definition closes a cycle with those that are stored. -/
theorem LeadsBack.transGen (h : registry.LeadsBack definition) :
    Relation.TransGen (registry.install definition).DependsOn definition.id definition.id := by
  obtain ⟨dependency, hdependency, hreach⟩ := h
  refine .head' (b := dependency) ?_ hreach
  rwa [DependsOn, dependencies_install_self]

theorem attempt_of_cycleThrough_eq_none (h : registry.cycleThrough definition = none) :
    registry.attempt definition = registry.install definition := by
  rw [attempt, register_eq, h]

theorem id_notMem_of_nodup {held rest : List Definition}
    (hdistinct : ((held ++ definition :: rest).map Definition.id).Nodup) :
    definition.id ∉ held.map Definition.id := by
  rw [List.map_append, List.map_cons] at hdistinct
  intro hmem
  exact (List.nodup_append.1 hdistinct).2.2 _ hmem _ List.mem_cons_self rfl

/-- Every definition is stored or refused. -/
theorem stored_add_refused : ∀ (registry : PrefabRegistry) (definitions : List Definition),
    (registry.registerAll definitions).2.1 + (registry.registerAll definitions).2.2.length =
      definitions.length
  | _, [] => rfl
  | registry, definition :: rest => by
    rw [registerAll]
    cases registry.register definition with
    | ok registry' =>
      have hrest := stored_add_refused registry' rest
      show (registry'.registerAll rest).2.1 + 1 + (registry'.registerAll rest).2.2.length =
        rest.length + 1
      omega
    | error error =>
      have hrest := stored_add_refused registry rest
      show (registry.registerAll rest).2.1 + ((registry.registerAll rest).2.2.length + 1) =
        rest.length + 1
      omega

/-- If nothing is refused, everything is held. -/
theorem holds_registerAll : ∀ (definitions : List Definition) {registry : PrefabRegistry}
    {held : List Definition}, registry.Holds held →
      ((held ++ definitions).map Definition.id).Nodup →
      (registry.registerAll definitions).2.2 = [] →
        (registry.registerAll definitions).1.Holds (held ++ definitions)
  | [], registry, held, h, _, _ => by rwa [List.append_nil]
  | definition :: rest, registry, held, h, hdistinct, hrefused => by
    rw [refused_registerAll_cons, List.append_eq_nil_iff] at hrefused
    obtain ⟨haccepted, hrest⟩ := hrefused
    have hcycle : registry.cycleThrough definition = none := by simpa using haccepted
    have hnew := id_notMem_of_nodup hdistinct
    rw [registerAll_eq_foldl, List.foldl_cons, ← registerAll_eq_foldl]
    rw [attempt_of_cycleThrough_eq_none hcycle] at hrest ⊢
    rw [List.append_cons] at hdistinct ⊢
    exact holds_registerAll rest (h.install hnew) hdistinct hrest

/-- Without a cycle among what is held and what comes, nothing is refused. -/
theorem refused_of_acyclic : ∀ (definitions : List Definition) {registry : PrefabRegistry}
    {held : List Definition}, registry.Holds held →
      ((held ++ definitions).map Definition.id).Nodup → Definition.Acyclic (held ++ definitions) →
        (registry.registerAll definitions).2.2 = []
  | [], _, _, _, _, _ => rfl
  | definition :: rest, registry, held, h, hdistinct, hacyclic => by
    have hnew := id_notMem_of_nodup hdistinct
    have hinstall := h.install hnew
    rw [List.append_cons] at hdistinct hacyclic
    have hcycle : registry.cycleThrough definition = none := by
      rw [cycleThrough_eq_none_iff]
      intro hback
      have hsofar : (registry.install definition).Acyclic :=
        hinstall.acyclic_iff.2 (hacyclic.anti (List.subset_append_left _ rest))
      exact hsofar _ hback.transGen
    rw [refused_registerAll_cons, hcycle, attempt_of_cycleThrough_eq_none hcycle]
    exact refused_of_acyclic rest hinstall hdistinct hacyclic

/-- Definitions with different ids are all accepted exactly if their graph has no cycle. -/
theorem refused_eq_nil_iff (hdistinct : (definitions.map Definition.id).Nodup) :
    (empty.registerAll definitions).2.2 = [] ↔ Definition.Acyclic definitions := by
  refine ⟨fun hrefused => ?_, refused_of_acyclic definitions holds_empty hdistinct⟩
  have hholds := holds_registerAll definitions holds_empty hdistinct hrefused
  refine hholds.acyclic_iff.1 ?_
  rw [registerAll_eq_foldl]
  exact (wellFormed_foldl definitions wellFormed_empty).acyclic

/-! ## Other orders -/

variable {order : List Definition}

theorem refused_perm (hdistinct : (definitions.map Definition.id).Nodup)
    (h : order.Perm definitions) :
    (empty.registerAll order).2.2 = [] ↔ Definition.Acyclic definitions := by
  rw [refused_eq_nil_iff ((h.map Definition.id).nodup_iff.2 hdistinct)]
  exact ⟨.anti h.symm.subset, .anti h.subset⟩

/-- Without a cycle, every order is accepted and all give the same registry. -/
theorem registerAll_perm (hdistinct : (definitions.map Definition.id).Nodup)
    (hacyclic : Definition.Acyclic definitions) (h : order.Perm definitions) :
    empty.registerAll order = ((empty.registerAll definitions).1, definitions.length, []) := by
  have hrefused := (refused_perm hdistinct h).2 hacyclic
  have hstored := stored_add_refused empty order
  rw [hrefused, List.length_nil, Nat.add_zero, h.length_eq] at hstored
  have hholds : (empty.registerAll order).1.Holds definitions := by
    have horder := holds_registerAll order holds_empty ((h.map Definition.id).nodup_iff.2 hdistinct)
      hrefused
    intro id definition
    rw [horder id definition, List.nil_append, h.mem_iff]
  have hholds' := holds_registerAll definitions holds_empty hdistinct
    ((refused_eq_nil_iff hdistinct).2 hacyclic)
  have hsame := eq_of_holds (pairwise_ids_registerAll order) (pairwise_ids_registerAll definitions)
    hholds hholds'
  exact Prod.ext hsame (Prod.ext hstored hrefused)

end PrefabRegistry

/-! ## Documents -/

namespace Definition

/-- The definition that a value is parsed to, wherever it stands. -/
def parsed? (value : Json) : Option Definition := (parse 0 value).toOption

theorem toOption_parse (index : Nat) (value : Json) :
    (parse index value).toOption = parsed? value := by
  rw [parsed?, parse, parse]
  cases read value with
  | error fault => rfl
  | ok definition =>
    dsimp only
    split_ifs <;> rfl

theorem parseFrom_fst : ∀ (index : Nat) (values : List Json),
    (parseFrom index values).1 = values.filterMap parsed?
  | _, [] => rfl
  | index, value :: rest => by
    have hvalue := toOption_parse index value
    rw [parseFrom]
    cases hparse : parse index value with
    | error diagnostic =>
      rw [hparse] at hvalue
      rw [List.filterMap_cons_none hvalue.symm, ← parseFrom_fst (index + 1) rest]
    | ok definition =>
      rw [hparse] at hvalue
      rw [List.filterMap_cons_some hvalue.symm, ← parseFrom_fst (index + 1) rest]

theorem parseFrom_snd_eq_nil_iff : ∀ (index : Nat) (values : List Json),
    (parseFrom index values).2 = [] ↔ ∀ value ∈ values, (parsed? value).isSome = true
  | _, [] => by simp [parseFrom]
  | index, value :: rest => by
    have hvalue := toOption_parse index value
    have hrest := parseFrom_snd_eq_nil_iff (index + 1) rest
    rw [parseFrom, List.forall_mem_cons, ← hrest, ← hvalue]
    cases parse index value with
    | error diagnostic => simp [Except.toOption]
    | ok definition => simp [Except.toOption]

/-- Values that are all parsed may come in any order, and so do their definitions. -/
theorem parseAll_perm {values values' : List Json} {definitions : List Definition}
    (hparse : parseAll values = (definitions, [])) (h : values'.Perm values) :
    ∃ order, order.Perm definitions ∧ parseAll values' = (order, []) := by
  obtain ⟨hdefinitions, hparsed⟩ := Prod.ext_iff.1 hparse
  simp only [parseAll, parseFrom_fst] at hdefinitions
  simp only [parseAll, parseFrom_snd_eq_nil_iff] at hparsed
  have horder : (values'.filterMap parsed?).Perm definitions := by
    rw [← hdefinitions]
    exact h.filterMap parsed?
  refine ⟨values'.filterMap parsed?, horder, ?_⟩
  refine Prod.ext (parseFrom_fst 0 values') ((parseFrom_snd_eq_nil_iff 0 values').2 ?_)
  exact fun value hmem => hparsed value (h.mem_iff.1 hmem)

end Definition

namespace PrefabRegistry

theorem ofJson_perm {values values' : List Json} {definitions : List Definition}
    (hparse : Definition.parseAll values = (definitions, []))
    (hdistinct : (definitions.map Definition.id).Nodup)
    (hacyclic : Definition.Acyclic definitions) (h : values'.Perm values) :
    ofJson values' = ofJson values := by
  obtain ⟨order, horder, hparse'⟩ := Definition.parseAll_perm hparse h
  rw [ofJson, ofJson, hparse, hparse']
  dsimp only
  rw [registerAll_perm hdistinct hacyclic horder,
    registerAll_perm hdistinct hacyclic (.refl definitions)]

/-- Definitions with different ids. Without a cycle in their graph, all are accepted in every order,
the registry is the same one, and a document that has them as its prefabs loads alike whatever their
order. With a cycle, every order has a refusal. -/
theorem registerAll_order {definitions : List Definition}
    (hdistinct : (definitions.map Definition.id).Nodup) :
    (Definition.Acyclic definitions →
      (∀ order, order.Perm definitions →
        empty.registerAll order = ((empty.registerAll definitions).1, definitions.length, []) ∧
          ∀ definition ∈ definitions,
            (empty.registerAll order).1.get? definition.id = some definition) ∧
      ∀ (loader : Loader) (document permuted : Document) (ids : IdAllocator) (supply : KeySupply),
        Definition.parseAll document.prefabs = (definitions, []) →
        permuted.entities = document.entities → permuted.prefabs.Perm document.prefabs →
          loader.load permuted ids supply = loader.load document ids supply) ∧
    (¬Definition.Acyclic definitions →
      ∀ order, order.Perm definitions →
        (empty.registerAll order).2.2 ≠ [] ∧
          (empty.registerAll order).2.1 < definitions.length) := by
  refine ⟨fun hacyclic => ⟨fun order horder => ?_, ?_⟩, fun hcyclic order horder => ?_⟩
  · have hregistered := registerAll_perm hdistinct hacyclic horder
    refine ⟨hregistered, fun definition hmem => ?_⟩
    have hholds := holds_registerAll definitions holds_empty hdistinct
      ((refused_eq_nil_iff hdistinct).2 hacyclic)
    rw [hregistered]
    exact (hholds definition.id definition).2 ⟨hmem, rfl⟩
  · intro loader document permuted ids supply hparse hentities hprefabs
    have hofJson := ofJson_perm hparse hdistinct hacyclic hprefabs
    rw [Loader.load, Loader.load, hofJson, hentities]
  · have hrefused := mt (refused_perm hdistinct horder).1 hcyclic
    have hstored := stored_add_refused empty order
    have hpositive := List.length_pos_iff.2 hrefused
    rw [horder.length_eq] at hstored
    exact ⟨hrefused, by omega⟩

/-- A drawer has a lock, which is not defined. -/
def drawer : Definition := (Definition.ofRoot "drawer" (.named "handle")).withDependency "lock"

/-- An office with one desk and the given prefabs. -/
def office (prefabs : List Json) : Document where
  entities :=
    [{ persistentId := some "mine"
       components := [(PrefabInstance.kind, .obj [("prefabId", .str "desk")])] }]
  prefabs := prefabs

theorem registerAll_order_desk :
    (empty.registerAll [drawer, desk] = ((empty.registerAll [desk, drawer]).1, 2, []) ∧
      (empty.registerAll [drawer, desk]).1.get? "desk" = some desk) ∧
    Loader.load { decoders := .standard } (office [drawer.toJson, desk.toJson]) (.startingAt 0)
        Nat.repr =
      Loader.load { decoders := .standard } (office [desk.toJson, drawer.toJson]) (.startingAt 0)
        Nat.repr ∧
    (empty.registerAll [drawerOfDesk, desk]).2.2 ≠ [] ∧
    (empty.registerAll [desk, drawerOfDesk]).2.2 ≠ [] := by
  have hacyclic : Definition.Acyclic [desk, drawer] :=
    Definition.acyclic_of_rank (fun id => if id = "desk" then 2 else if id = "drawer" then 1 else 0)
      (by decide)
  have hcyclic : ¬Definition.Acyclic [desk, drawerOfDesk] := fun h =>
    h "desk" <| .tail (b := "drawer") (.single ⟨desk, by simp, rfl, by decide⟩)
      ⟨drawerOfDesk, by simp, rfl, by decide⟩
  have hdistinct : ([desk, drawer].map Definition.id).Nodup := by decide
  have hdistinct' : ([desk, drawerOfDesk].map Definition.id).Nodup := by decide
  obtain ⟨horders, hloads⟩ := (registerAll_order hdistinct).1 hacyclic
  have hrefusals := (registerAll_order hdistinct').2 hcyclic
  refine ⟨⟨(horders _ (.swap ..)).1, (horders _ (.swap ..)).2 desk (by simp)⟩, ?_,
    (hrefusals _ (.swap ..)).1, (hrefusals _ (.refl _)).1⟩
  exact hloads _ _ _ _ _ rfl rfl (.swap ..)

end PrefabRegistry

end SceneLoad
