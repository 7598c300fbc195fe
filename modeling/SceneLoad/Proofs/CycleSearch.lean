import Mathlib.Data.List.Chain
import SceneLoad.Proofs.Dependencies

/-!
# The search for a cycle

The search of a registration comes to its end (`walks_registration`). If it meets the new id, it has
come along a route (`route_of_walks`). The ids on it were entered one behind the other, each for the
first time, so none is on it twice. If it does not meet the id, it has entered a closed set without
it, and then no route leads there (`not_leadsBack_of_cycleThrough`). Together they say when a
registration is refused and what the refusal names (`register_search`).
-/

namespace SceneLoad

namespace PrefabRegistry

variable {registry : PrefabRegistry} {target : String}

/-! ## Routes -/

/-- `way` are the ids between one of `ids` and `target`, along dependencies of other ids than
`target`. None of them was visited. -/
structure Route (registry : PrefabRegistry) (target : String) (visited ids way : List String) :
    Prop where
  start : ∃ first ∈ ids, (way ++ [target]).head? = some first
  chain : (way ++ [target]).IsChain fun a b => a ≠ target ∧ registry.DependsOn a b
  nodup : way.Nodup
  target_notMem : target ∉ way
  new : ∀ id ∈ way, id ∉ visited
  registered : way ⊆ registry.ids

theorem Route.mono {visited visited' ids ids' way : List String}
    (h : registry.Route target visited ids way) (hvisited : visited' ⊆ visited)
    (hids : ids ⊆ ids') : registry.Route target visited' ids' way := by
  obtain ⟨first, hfirst, hhead⟩ := h.start
  exact { h with
    start := ⟨first, hids hfirst, hhead⟩
    new := fun id hid hmem => h.new id hid (hvisited hmem) }

/-- A search that meets the id has come along a route. -/
theorem route_of_walks {visited ids : List String} {outcome : Search} {path : List String}
    (h : registry.Walks target visited ids outcome) (hfound : outcome = .found path) :
    ∃ way, path = way ++ [target] ∧ registry.Route target visited ids way := by
  induction h generalizing path with
  | done => cases hfound
  | meet visited rest =>
    obtain rfl := Search.found.inj hfound
    exact ⟨[], rfl, ⟨target, List.mem_cons_self, rfl⟩, .singleton target, List.nodup_nil,
      List.not_mem_nil, by simp, List.nil_subset _⟩
  | skip _ _ _ ih =>
    obtain ⟨way, rfl, hroute⟩ := ih hfound
    exact ⟨way, rfl, hroute.mono (List.Subset.refl _) (List.subset_cons_self ..)⟩
  | @follow visited path' id rest hid hnew _ ih =>
    obtain rfl := Search.found.inj hfound
    obtain ⟨way, rfl, hroute⟩ := ih rfl
    obtain ⟨first, hfirst, hhead⟩ := hroute.start
    have hregistered : id ∈ registry.ids :=
      mem_ids_of_dependencies_ne_nil (List.ne_nil_of_mem hfirst)
    -- The ids behind this one were new when it had been entered.
    have hfresh : id ∉ way := fun hmem => hroute.new id hmem List.mem_cons_self
    refine ⟨id :: way, rfl, ⟨id, List.mem_cons_self, rfl⟩, ?_, hroute.nodup.cons hfresh,
      ?_, ?_, List.cons_subset.2 ⟨hregistered, hroute.registered⟩⟩
    · refine List.isChain_cons.2 ⟨fun next hnext => ?_, hroute.chain⟩
      obtain rfl : first = next := Option.some.inj (hhead.symm.trans hnext)
      exact ⟨hid, hfirst⟩
    · simpa using ⟨Ne.symm hid, hroute.target_notMem⟩
    · refine List.forall_mem_cons.2 ⟨hnew, fun other hother hmem => ?_⟩
      exact hroute.new other hother (List.mem_cons_of_mem id hmem)
  | back _ _ hbehind _ _ ih =>
    obtain ⟨way, rfl, hroute⟩ := ih hfound
    have hvisited := List.subset_of_cons_subset (hbehind.subset)
    exact ⟨way, rfl, hroute.mono hvisited (List.subset_cons_self ..)⟩

/-! ## Registrations -/

/-- The registry with a definition stored under its id, in place of an earlier one. -/
def install (registry : PrefabRegistry) (definition : Definition) : PrefabRegistry :=
  ⟨SortedMap.insert definition.id definition registry.definitions⟩

theorem dependencies_install_self (registry : PrefabRegistry) (definition : Definition) :
    (registry.install definition).dependencies definition.id = definition.dependencies := by
  rw [install, dependencies_insert, if_pos rfl]

theorem dependencies_install_of_ne (registry : PrefabRegistry) (definition : Definition)
    {id : String} (hid : id ≠ definition.id) :
    (registry.install definition).dependencies id = registry.dependencies id := by
  rw [install, dependencies_insert, if_neg hid]

/-- With the definition stored, one of its dependencies leads back to it. -/
def LeadsBack (registry : PrefabRegistry) (definition : Definition) : Prop :=
  ∃ dependency ∈ definition.dependencies,
    Relation.ReflTransGen (registry.install definition).DependsOn dependency definition.id

/-- What a search for the id of a definition has entered in vain is not left with the definition
stored. -/
theorem not_leadsBack_of_cycleThrough {definition : Definition}
    (h : registry.cycleThrough definition = none) : ¬registry.LeadsBack definition := by
  obtain ⟨entered, hdeps, hid, hclosed⟩ := exists_closed_of_cycleThrough_eq_none h
  have hstays : ∀ {a b : String}, a ∈ entered →
      Relation.ReflTransGen (registry.install definition).DependsOn a b → b ∈ entered := by
    intro a b ha hreach
    induction hreach with
    | refl => exact ha
    | @tail b c _ hedge hb =>
      have hne : b ≠ definition.id := fun heq => hid (heq ▸ hb)
      rw [DependsOn, dependencies_install_of_ne registry definition hne] at hedge
      exact hclosed b hb hedge
  rintro ⟨dependency, hdependency, hreach⟩
  exact hid (hstays (hdeps hdependency) hreach)

/-- A route from the dependencies of a definition to its id closes a cycle, once the definition is
stored. -/
theorem Route.isChain_install {definition : Definition} {way : List String}
    (h : registry.Route definition.id [] definition.dependencies way) :
    (definition.id :: (way ++ [definition.id])).IsChain
      (registry.install definition).DependsOn := by
  obtain ⟨first, hfirst, hhead⟩ := h.start
  refine List.isChain_cons.2 ⟨fun next hnext => ?_, h.chain.imp fun a b hedge => ?_⟩
  · obtain rfl : first = next := Option.some.inj (hhead.symm.trans hnext)
    rwa [DependsOn, dependencies_install_self]
  · rw [DependsOn, dependencies_install_of_ne registry definition hedge.1]
    exact hedge.2

theorem Route.leadsBack {definition : Definition} {way : List String}
    (h : registry.Route definition.id [] definition.dependencies way) :
    registry.LeadsBack definition := by
  obtain ⟨first, hfirst, hhead⟩ := h.start
  obtain ⟨rest, hrest⟩ := List.head?_eq_some_iff.1 hhead
  have hchain : (first :: rest).IsChain (registry.install definition).DependsOn :=
    hrest ▸ h.isChain_install.tail
  have hlast : (first :: rest).getLast (List.cons_ne_nil first rest) = definition.id := by
    simp [← hrest]
  exact ⟨first, hfirst, List.relationReflTransGen_of_exists_isChain_cons rest hchain hlast⟩

theorem route_of_cycleThrough {definition : Definition} {cycle : List String}
    (h : registry.cycleThrough definition = some cycle) :
    ∃ way, cycle = definition.id :: (way ++ [definition.id]) ∧
      registry.Route definition.id [] definition.dependencies way := by
  have hwalks := registry.walks_registration definition
  unfold cycleThrough at h
  cases hsearch :
      registry.search definition.id (registry.size + 1) [] definition.dependencies with
  | clear entered => simp [hsearch] at h
  | found path =>
    simp only [hsearch, Option.some.injEq] at h
    rw [hsearch] at hwalks
    obtain ⟨way, rfl, hroute⟩ := route_of_walks hwalks rfl
    exact ⟨way, h.symm, hroute⟩

/-- A definition is refused exactly if it would depend on itself. -/
theorem cycleThrough_eq_none_iff (registry : PrefabRegistry) (definition : Definition) :
    registry.cycleThrough definition = none ↔ ¬registry.LeadsBack definition := by
  refine ⟨not_leadsBack_of_cycleThrough, fun hback => ?_⟩
  cases hcycle : registry.cycleThrough definition with
  | none => rfl
  | some cycle =>
    obtain ⟨way, -, hroute⟩ := route_of_cycleThrough hcycle
    exact absurd hroute.leadsBack hback

theorem register_eq (registry : PrefabRegistry) (definition : Definition) :
    registry.register definition =
      match registry.cycleThrough definition with
      | some cycle => .error ⟨definition.id, cycle⟩
      | none => .ok (registry.install definition) := rfl

/-- The search of a registration ends, and its end is that of the registration. The definition is
refused exactly if, once it is stored, one of its dependencies leads back to it. A refusal names a
cycle of dependencies from its id through other registered ids, each once. -/
theorem register_search (registry : PrefabRegistry) (definition : Definition) :
    (∃ outcome, registry.Walks definition.id [] definition.dependencies outcome ∧
      registry.register definition =
        match outcome with
        | .found path => .error ⟨definition.id, definition.id :: path⟩
        | .clear _ => .ok (registry.install definition)) ∧
    ((∃ error, registry.register definition = .error error) ↔
      ∃ dependency ∈ definition.dependencies,
        Relation.ReflTransGen (registry.install definition).DependsOn dependency definition.id) ∧
    ∀ error, registry.register definition = .error error →
      error.id = definition.id ∧
        ∃ way, error.cycle = definition.id :: (way ++ [definition.id]) ∧
          error.cycle.IsChain (registry.install definition).DependsOn ∧
          way.Nodup ∧ definition.id ∉ way ∧ way ⊆ registry.ids := by
  refine ⟨⟨_, registry.walks_registration definition, ?_⟩, ?_, fun error herror => ?_⟩
  · rw [register_eq, cycleThrough]
    cases registry.search definition.id (registry.size + 1) [] definition.dependencies <;> rfl
  · rw [← LeadsBack, ← not_iff_not, ← cycleThrough_eq_none_iff, register_eq]
    cases registry.cycleThrough definition <;> simp
  · rw [register_eq] at herror
    cases hcycle : registry.cycleThrough definition with
    | none => simp [hcycle] at herror
    | some cycle =>
      obtain ⟨way, rfl, hroute⟩ := route_of_cycleThrough hcycle
      simp only [hcycle, Except.error.injEq] at herror
      subst herror
      exact ⟨rfl, way, rfl, hroute.isChain_install, hroute.nodup, hroute.target_notMem,
        hroute.registered⟩

/-- A desk has a drawer. -/
def desk : Definition := (Definition.ofRoot "desk" {}).withDependency "drawer"

/-- A drawer with a desk in it. -/
def drawerOfDesk : Definition := (Definition.ofRoot "drawer" {}).withDependency "desk"

example : (empty.install desk).register drawerOfDesk =
    .error ⟨"drawer", ["drawer", "desk", "drawer"]⟩ := rfl

end PrefabRegistry

end SceneLoad
