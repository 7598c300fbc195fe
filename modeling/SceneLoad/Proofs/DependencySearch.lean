import SceneLoad.Prefab.Registry
import SceneLoad.Proofs.Maps

/-!
# The search along dependencies

A registration looks for the new id along the dependencies. `Walks` has one rule for each thing that
the search can do and no bound on how far it goes, so a derivation is a search that comes to its
end. There is one for the search that a registration makes (`walks_registration`) : a descent goes
on only behind a registered id that was not entered before, and each of these is one less to enter.

A search that meets the id nowhere leaves a set of ids behind (`Walks.explored`). It holds what the
search started from and is closed under dependency, and the id is not in it
(`exists_closed_of_cycleThrough_eq_none`).
-/

namespace SceneLoad

namespace PrefabRegistry

/-- The definition of `a` depends on `b`. -/
def DependsOn (registry : PrefabRegistry) (a b : String) : Prop := b ∈ registry.dependencies a

/-! ## Searches that end -/

/-- The search for `target` from each of the given ids in turn, with the ids that are entered
already and what it ends with. -/
inductive Walks (registry : PrefabRegistry) (target : String) :
    (visited ids : List String) → Search → Prop
  /-- There is nowhere left to search from. -/
  | done (visited : List String) : Walks registry target visited [] (.clear visited)
  /-- The id is met. -/
  | meet (visited rest : List String) :
      Walks registry target visited (target :: rest) (.found [target])
  /-- An id that is entered already is passed over. -/
  | skip {visited rest : List String} {id : String} {outcome : Search} (hid : id ≠ target)
      (hold : id ∈ visited) (hrest : Walks registry target visited rest outcome) :
      Walks registry target visited (id :: rest) outcome
  /-- Behind a new id the search is successful. -/
  | follow {visited path : List String} {id : String} (rest : List String) (hid : id ≠ target)
      (hnew : id ∉ visited)
      (hbehind : Walks registry target (id :: visited) (registry.dependencies id) (.found path)) :
      Walks registry target visited (id :: rest) (.found (id :: path))
  /-- Behind a new id it is not, and the next one is tried. -/
  | back {visited entered rest : List String} {id : String} {outcome : Search} (hid : id ≠ target)
      (hnew : id ∉ visited)
      (hbehind : Walks registry target (id :: visited) (registry.dependencies id) (.clear entered))
      (hrest : Walks registry target entered rest outcome) :
      Walks registry target visited (id :: rest) outcome

variable {registry : PrefabRegistry} {target : String}

/-- What a search that meets its target nowhere leaves behind. Ids are only added, and whatever an
added id depends on has been entered. -/
structure Explored (registry : PrefabRegistry) (before after : List String) : Prop where
  subset : before ⊆ after
  closed : ∀ id ∈ after, id ∉ before → registry.dependencies id ⊆ after

namespace Explored

variable {first second third : List String}

theorem refl (visited : List String) : registry.Explored visited visited :=
  ⟨List.Subset.refl visited, fun _ hmem hnot => absurd hmem hnot⟩

theorem trans (h : registry.Explored first second) (h' : registry.Explored second third) :
    registry.Explored first third := by
  refine ⟨List.Subset.trans h.subset h'.subset, fun id hid hnew => ?_⟩
  by_cases hsecond : id ∈ second
  · exact List.Subset.trans (h.closed id hsecond hnew) h'.subset
  · exact h'.closed id hid hsecond

/-- An id counts as explored once its dependencies are entered. -/
theorem of_cons {id : String} (h : registry.Explored (id :: first) second)
    (hid : registry.dependencies id ⊆ second) : registry.Explored first second := by
  refine ⟨List.subset_of_cons_subset h.subset, fun x hx hnew => ?_⟩
  by_cases heq : x = id
  · exact heq ▸ hid
  · exact h.closed x hx (by simp [heq, hnew])

end Explored

namespace Walks

variable {visited ids entered : List String} {outcome : Search}

theorem explored (h : registry.Walks target visited ids outcome)
    (hclear : outcome = .clear entered) : registry.Explored visited entered ∧ ids ⊆ entered := by
  induction h generalizing entered with
  | done visited =>
    obtain rfl := Search.clear.inj hclear
    exact ⟨.refl visited, List.nil_subset _⟩
  | meet => cases hclear
  | skip _ hold _ ih =>
    obtain ⟨hexplored, hrest⟩ := ih hclear
    exact ⟨hexplored, List.cons_subset.2 ⟨hexplored.subset hold, hrest⟩⟩
  | follow => cases hclear
  | back _ _ _ _ ihBehind ihRest =>
    obtain ⟨hbehind, hdeps⟩ := ihBehind rfl
    obtain ⟨hothers, hrest⟩ := ihRest hclear
    have hid := hothers.subset (hbehind.subset List.mem_cons_self)
    exact ⟨(hbehind.of_cons hdeps).trans hothers, List.cons_subset.2 ⟨hid, hrest⟩⟩

/-- What is entered stays entered. -/
theorem subset (h : registry.Walks target visited ids (.clear entered)) : visited ⊆ entered :=
  (h.explored rfl).1.subset

theorem target_notMem (h : registry.Walks target visited ids outcome)
    (hclear : outcome = .clear entered) (htarget : target ∉ visited) : target ∉ entered := by
  induction h generalizing entered with
  | done visited => exact Search.clear.inj hclear ▸ htarget
  | meet => cases hclear
  | skip _ _ _ ih => exact ih hclear htarget
  | follow => cases hclear
  | back hid _ _ _ ihBehind ihRest =>
    exact ihRest hclear (ihBehind rfl (List.not_mem_cons_of_ne_of_not_mem hid.symm htarget))

end Walks

/-! ## Fuel -/

/-- Number of registered ids that were not entered. -/
def unvisited (registry : PrefabRegistry) (visited : List String) : Nat :=
  (registry.ids.filter (· ∉ visited)).length

theorem unvisited_anti (registry : PrefabRegistry) {before after : List String}
    (h : before ⊆ after) : registry.unvisited after ≤ registry.unvisited before := by
  refine (List.monotone_filter_right registry.ids fun id hid => ?_).length_le
  simp only [decide_eq_true_eq] at hid ⊢
  exact fun hmem => hid (h hmem)

/-- Entering a registered id leaves one less. -/
theorem unvisited_cons_lt (registry : PrefabRegistry) {id : String} {visited : List String}
    (hid : id ∈ registry.ids) (hnew : id ∉ visited) :
    registry.unvisited (id :: visited) < registry.unvisited visited := by
  unfold unvisited
  have hfilter : registry.ids.filter (· ∉ id :: visited) =
      (registry.ids.filter (· ∉ visited)).filter (· ≠ id) := by
    rw [List.filter_filter]
    refine List.filter_congr fun x _ => ?_
    simp
  rw [hfilter, List.length_filter_lt_length_iff_exists]
  exact ⟨id, by simp [hid, hnew], by simp⟩

/-- An id that is not registered depends on nothing. -/
theorem mem_ids_of_dependencies_ne_nil {registry : PrefabRegistry} {id : String}
    (h : registry.dependencies id ≠ []) : id ∈ registry.ids := by
  unfold dependencies at h
  cases hget : registry.get? id with
  | none => simp [hget] at h
  | some definition => exact SortedMap.mem_keys_of_find? hget

/-- With fuel for the ids still to enter, the search comes to its end. -/
theorem walks_search (registry : PrefabRegistry) (target : String) :
    ∀ (fuel : Nat) (visited ids : List String),
      (ids = [] ∨ registry.unvisited visited < fuel) →
        registry.Walks target visited ids (registry.search target fuel visited ids)
  | 0, visited, ids, hfuel => by
    obtain rfl : ids = [] := hfuel.resolve_right (Nat.not_lt_zero _)
    exact .done visited
  | fuel + 1, visited, ids, hfuel => by
    induction ids generalizing visited with
    | nil => exact .done visited
    | cons id rest ih =>
      have hfuel := hfuel.resolve_left (List.cons_ne_nil id rest)
      rw [search, searchEach]
      split_ifs with hid hold
      · subst hid
        exact .meet visited rest
      · exact .skip hid hold (ih visited (.inr hfuel))
      · -- Entering a registered id pays for the descent, and behind any other there is nothing.
        have hfuel' : registry.dependencies id = [] ∨
            registry.unvisited (id :: visited) < fuel := by
          by_cases hdeps : registry.dependencies id = []
          · exact .inl hdeps
          · have hless := registry.unvisited_cons_lt (mem_ids_of_dependencies_ne_nil hdeps) hold
            exact .inr (by omega)
        have hbehind := walks_search registry target fuel (id :: visited) _ hfuel'
        cases hsearch : registry.search target fuel (id :: visited) (registry.dependencies id) with
        | found path =>
          rw [hsearch] at hbehind
          exact .follow rest hid hold hbehind
        | clear entered =>
          rw [hsearch] at hbehind
          have hvisited : visited ⊆ entered := List.subset_of_cons_subset hbehind.subset
          have hfuel'' : registry.unvisited entered < fuel + 1 :=
            Nat.lt_of_le_of_lt (registry.unvisited_anti hvisited) hfuel
          exact .back hid hold hbehind (ih entered (.inr hfuel''))

/-- The search of a registration comes to its end. -/
theorem walks_registration (registry : PrefabRegistry) (definition : Definition) :
    registry.Walks definition.id [] definition.dependencies
      (registry.search definition.id (registry.size + 1) [] definition.dependencies) := by
  refine walks_search registry definition.id _ [] _ (.inr ?_)
  have hle := List.length_filter_le (· ∉ ([] : List String)) registry.ids
  simp only [ids, SortedMap.keys, List.length_map] at hle
  exact Nat.lt_succ_of_le hle

/-- An accepted definition : its dependencies lie in a set of ids that is closed under dependency
and lacks its own id. -/
theorem exists_closed_of_cycleThrough_eq_none {candidate : Definition}
    (h : registry.cycleThrough candidate = none) :
    ∃ entered : List String, candidate.dependencies ⊆ entered ∧ candidate.id ∉ entered ∧
      ∀ id ∈ entered, registry.dependencies id ⊆ entered := by
  have hwalks := registry.walks_registration candidate
  unfold cycleThrough at h
  cases hsearch : registry.search candidate.id (registry.size + 1) [] candidate.dependencies with
  | found path => simp [hsearch] at h
  | clear entered =>
    rw [hsearch] at hwalks
    obtain ⟨hexplored, hdeps⟩ := hwalks.explored rfl
    exact ⟨entered, hdeps, hwalks.target_notMem rfl List.not_mem_nil,
      fun id hid => hexplored.closed id hid List.not_mem_nil⟩

end PrefabRegistry

end SceneLoad
