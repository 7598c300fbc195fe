import SceneLoad.Proofs.Merge

/-!
# Templates that carry a patch

A template carries a patch when all the overrides are there already : at each node that the patch
reaches, every kind of its part is present, with the override as its value or, where both are
objects, with the override's fields among its own (`Template.Carries`).

Merging a patch gives a template that carries it (`carries_apply`), and leaves a template that
carries it as it is, down to the order of kinds and fields (`apply_of_carries`). What is reported
depends on the names and the children of the nodes, which no patch changes
(`diagnostics_apply_apply`). So a second merge of the same patch comes to what the first one did
(`apply_apply`).
-/

namespace SceneLoad

/-! ## Components -/

/-- The value has the override in it : all the fields, if both are objects, and otherwise it is the
override. -/
def Json.Carries : Json → Json → Prop
  | .obj base, .obj fields => ∀ field ∈ fields, Object.find? base field.1 = some field.2
  | value, override => value = override

/-- Every kind of the overrides is there, with the override in it. -/
def Object.Carries (components overrides : Object) : Prop :=
  ∀ entry ∈ overrides, ∃ value,
    Object.find? components entry.1 = some value ∧ value.Carries entry.2

namespace Patch

theorem carries_self {override : Json} (h : override.WellFormed) : override.Carries override := by
  cases h with
  | obj hkeys _ => exact fun field hfield => (lookup_eq_some_iff_mem hkeys).2 hfield
  | _ => rfl

theorem carries_mergeComponent (value : Json) {override : Json} (h : override.WellFormed) :
    (mergeComponent value override).Carries override := by
  unfold mergeComponent
  split
  · next base fields =>
    intro field hfield
    have hfind : Object.find? fields field.1 = some field.2 :=
      (lookup_eq_some_iff_mem h.nodup_keys).2 hfield
    rw [Object.find?_insertAll field.1 h.nodup_keys, hfind]
    rfl
  · exact carries_self h

theorem mergeComponent_of_carries {value override : Json} (h : value.Carries override) :
    mergeComponent value override = value := by
  unfold mergeComponent
  unfold Json.Carries at h
  split
  · rw [Object.insertAll_of_find? h]
  · next hmixed =>
    split at h
    · exact absurd rfl (hmixed _ _ rfl)
    · exact h.symm

theorem carries_mergeComponents (components : Object) {overrides : Object}
    (h : (Json.obj overrides).WellFormed) :
    Object.Carries (mergeComponents components overrides) overrides := by
  intro entry hentry
  have hfind : Object.find? overrides entry.1 = some entry.2 :=
    (lookup_eq_some_iff_mem h.nodup_keys).2 hentry
  have hoverride : entry.2.WellFormed := h.of_mem hentry
  rw [find?_mergeComponents]
  cases Object.find? components entry.1 with
  | none => exact ⟨entry.2, hfind, carries_self hoverride⟩
  | some value =>
    refine ⟨mergeComponent value entry.2, ?_, carries_mergeComponent value hoverride⟩
    dsimp only [overrideValue]
    rw [hfind]
    rfl

theorem map_overrideValue_of_carries {components overrides : Object}
    (hkeys : (Object.keys components).Nodup) (h : Object.Carries components overrides) :
    components.map (fun (kind, value) => (kind, overrideValue overrides kind value)) =
      components := by
  refine (List.map_congr_left (g := id) fun entry hentry => ?_).trans (List.map_id components)
  obtain ⟨kind, value⟩ := entry
  cases hfind : Object.find? overrides kind with
  | none => simp [overrideValue, hfind]
  | some override =>
    obtain ⟨found, hfound, hcarries⟩ := h (kind, override) (mem_of_lookup hfind)
    obtain rfl : found = value :=
      Option.some.inj (hfound.symm.trans ((lookup_eq_some_iff_mem hkeys).2 hentry))
    simp [overrideValue, hfind, mergeComponent_of_carries hcarries]

theorem filter_new_of_carries {components overrides : Object}
    (h : Object.Carries components overrides) :
    overrides.filter (fun (kind, _) => !Object.contains components kind) = [] := by
  refine List.filter_eq_nil_iff.2 fun entry hentry => ?_
  obtain ⟨value, hvalue, -⟩ := h entry hentry
  simp [Object.contains, hvalue]

/-- Overrides that are there already change nothing. -/
theorem mergeComponents_of_carries {components overrides : Object}
    (hkeys : (Object.keys components).Nodup) (h : Object.Carries components overrides) :
    mergeComponents components overrides = components := by
  rw [mergeComponents_eq, map_overrideValue_of_carries hkeys h, filter_new_of_carries h,
    List.append_nil]

end Patch

/-! ## Trees -/

/-- At each node that the patch reaches, the overrides are there. -/
def Template.Carries (template : Template) (patch : Patch) : Prop :=
  ∀ address node part, template.at? address = some node → patch.at? address = some part →
    Object.Carries node.components part.components

theorem Template.Carries.of_child {template child : Template} {patch part : Patch} {index : Nat}
    (h : template.Carries patch) (hchild : template.children[index]? = some child)
    (hpart : SortedMap.find? patch.children index = some part) : child.Carries part := by
  intro address node inner hnode hinner
  refine h (index :: address) node inner ?_ ?_
  · rw [Template.at?, hchild, Option.bind_some, hnode]
  · rw [Patch.at?, hpart, Option.bind_some, hinner]

namespace Patch

/-- A template carries the patch that was merged into it. -/
theorem carries_apply {patch : Patch} (hpatch : patch.WellFormed) (template : Template) :
    (patch.apply template).1.Carries patch := by
  intro address merged part hmerged hpart
  rw [at?_apply] at hmerged
  obtain ⟨node, -, rfl⟩ := Option.map_eq_some_iff.1 hmerged
  simp only [hpart, apply_eq]
  obtain ⟨hcomponents, -, -⟩ := hpatch.of_at? hpart
  exact carries_mergeComponents node.components hcomponents

/-- A template that carries a patch is not changed by it. -/
theorem apply_of_carries {template : Template} (htemplate : template.WellFormed) :
    ∀ {patch : Patch}, template.Carries patch → (patch.apply template).1 = template := by
  induction htemplate with
  | @mk name tags components children hcomponents hchildren ih =>
    intro patch h
    have hkinds : mergeComponents components patch.components = components :=
      mergeComponents_of_carries hcomponents.nodup_keys (h [] _ patch rfl rfl)
    have hbelow : (patch.applyChildren 0 children).1 = children := by
      refine List.ext_getElem? fun index => ?_
      rw [getElem?_applyChildren, Nat.zero_add]
      cases hchild : children[index]? with
      | none => rfl
      | some child =>
        cases hpart : SortedMap.find? patch.children index with
        | none => rfl
        | some part =>
          exact congrArg some (ih child (List.mem_of_getElem? hchild) (h.of_child hchild hpart))
    rw [apply_eq]
    simp only [hkinds, hbelow]

mutual

/-- A merged template gives rise to the same reports again. -/
theorem diagnostics_apply_apply (patch : Patch) :
    ∀ template : Template, (patch.apply (patch.apply template).1).2 = (patch.apply template).2
  | ⟨name, tags, components, children⟩ => by
    have hchildren := diagnostics_applyChildren_applyChildren patch children 0
    simp only [apply_eq, hchildren, length_applyChildren]

theorem diagnostics_applyChildren_applyChildren (patch : Patch) :
    ∀ (children : List Template) (index : Nat),
      (patch.applyChildren index (patch.applyChildren index children).1).2 =
        (patch.applyChildren index children).2
  | [], _ => by simp [applyChildren]
  | child :: rest, index => by
    have hrest := diagnostics_applyChildren_applyChildren patch rest (index + 1)
    rw [applyChildren, applyChildren]
    cases SortedMap.find? patch.children index with
    | none => simp only [hrest]
    | some part => simp only [hrest, diagnostics_apply_apply part child]

end

/-- Merging a patch twice gives the tree and the reports of merging it once, and the tree is the
template itself exactly if the template carries the patch. -/
theorem apply_apply {template : Template} {patch : Patch} (htemplate : template.WellFormed)
    (hpatch : patch.WellFormed) :
    patch.apply (patch.apply template).1 = patch.apply template ∧
      ((patch.apply template).1 = template ↔ template.Carries patch) := by
  have hcarries := carries_apply hpatch template
  refine ⟨Prod.ext ?_ (diagnostics_apply_apply patch template), fun hsame => ?_, ?_⟩
  · exact apply_of_carries (wellFormed_apply htemplate hpatch) hcarries
  · rwa [hsame] at hcarries
  · exact apply_of_carries htemplate

/-- The overrides change the bulb once, and the missing child is reported both times. -/
theorem apply_apply_bulb :
    bulbPatch.apply (bulbPatch.apply bulb).1 = bulbPatch.apply bulb ∧
      (bulbPatch.apply bulb).1 ≠ bulb ∧ (bulbPatch.apply bulb).2.length = 1 := by
  obtain ⟨hbulb, hpatch⟩ := wellFormed_bulb
  obtain ⟨hagain, hsame⟩ := apply_apply hbulb hpatch
  refine ⟨hagain, fun hbulb => ?_, rfl⟩
  have hsound : ("Sound", Json.null) ∈ bulbPatch.components := by simp [bulbPatch]
  obtain ⟨value, hvalue, -⟩ := hsame.1 hbulb [] bulb bulbPatch rfl rfl _ hsound
  cases hvalue

end Patch

end SceneLoad
