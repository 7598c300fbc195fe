import SceneLoad.Proofs.WellFormed

/-!
# What a patch does to a template

Nodes of a tree are named by addresses, the positions of the children on the way to them. The node
that `Patch.apply` leaves at an address is the template's node there under the part of the patch
there, and the template's own node where the patch does not reach (`at?_apply`). So names, tags and
the shape of the tree stay (`apply_overrides`), and a node's components are those of `Overridden` :
old kinds in their order, new ones after them, and within a kind that is an object on both sides the
same again for its fields.

A patch may name children that a node does not have. Each of these is reported once
(`apply_overrides`, last part), descendants before the node and otherwise from left to right
(`FinishedBefore`).
-/

namespace SceneLoad

/-! ## Addresses -/

/-- The node at an address. -/
def Template.at? : Template → List Nat → Option Template
  | template, [] => some template
  | template, index :: rest => template.children[index]?.bind fun child => child.at? rest

/-- The part of a patch for the node at an address. -/
def Patch.at? : Patch → List Nat → Option Patch
  | patch, [] => some patch
  | patch, index :: rest =>
    (SortedMap.find? patch.children index).bind fun childPatch => childPatch.at? rest

theorem Template.WellFormed.of_at? : ∀ {address : List Nat} {template node : Template},
    template.WellFormed → template.at? address = some node → node.WellFormed
  | [], _, _, hwf, h => Option.some.inj h ▸ hwf
  | _ :: _, _, _, .mk _ hchildren, h => by
    obtain ⟨child, hchild, hrest⟩ := Option.bind_eq_some_iff.1 h
    exact (hchildren child (List.mem_of_getElem? hchild)).of_at? hrest

theorem Patch.WellFormed.of_at? : ∀ {address : List Nat} {patch part : Patch},
    patch.WellFormed → patch.at? address = some part → part.WellFormed
  | [], _, _, hwf, h => Option.some.inj h ▸ hwf
  | _ :: _, _, _, .mk _ _ hchildren, h => by
    obtain ⟨child, hchild, hrest⟩ := Option.bind_eq_some_iff.1 h
    exact (hchildren _ (mem_of_lookup hchild)).of_at? hrest

namespace Patch

theorem apply_eq (patch : Patch) (template : Template) :
    patch.apply template =
      ({ template with
          components := mergeComponents template.components patch.components
          children := (patch.applyChildren 0 template.children).1 },
        (patch.applyChildren 0 template.children).2 ++
          patch.outOfRange template.name template.children.length) := by
  cases template
  rw [apply]

/-- The child of a merged node is the child under its part of the patch. -/
theorem getElem?_applyChildren (patch : Patch) :
    ∀ (index : Nat) (children : List Template) (i : Nat),
      (patch.applyChildren index children).1[i]? = children[i]?.map fun child =>
        match SortedMap.find? patch.children (index + i) with
        | some childPatch => (childPatch.apply child).1
        | none => child
  | _, [], _ => by simp [applyChildren]
  | index, child :: rest, 0 => by
    rw [applyChildren]
    cases SortedMap.find? patch.children index <;> simp
  | index, child :: rest, i + 1 => by
    rw [applyChildren]
    simp [getElem?_applyChildren patch (index + 1) rest i, Nat.add_assoc, Nat.add_comm 1]

theorem length_applyChildren (patch : Patch) :
    ∀ (index : Nat) (children : List Template),
      (patch.applyChildren index children).1.length = children.length
  | _, [] => by simp [applyChildren]
  | index, child :: rest => by
    rw [applyChildren]
    simp [length_applyChildren patch (index + 1) rest]

/-- A merged tree at an address. -/
theorem at?_apply : ∀ (address : List Nat) (patch : Patch) (template : Template),
    (patch.apply template).1.at? address = (template.at? address).map fun node =>
      match patch.at? address with
      | some part => (part.apply node).1
      | none => node
  | [], patch, template => by simp [Template.at?, Patch.at?]
  | index :: rest, patch, template => by
    have hchild := getElem?_applyChildren patch 0 template.children index
    rw [apply_eq, Template.at?, Template.at?, hchild, Patch.at?, Nat.zero_add]
    cases template.children[index]? with
    | none => rfl
    | some child =>
      cases SortedMap.find? patch.children index with
      | none => simp
      | some childPatch => simpa using at?_apply rest childPatch child

/-! ## Components -/

/-- A template's component under its override, if it has one. -/
def overrideValue (overrides : Object) (kind : String) (value : Json) : Json :=
  ((Object.find? overrides kind).map (mergeComponent value)).getD value

theorem mergeComponents_eq (template overrides : Object) :
    mergeComponents template overrides =
      (template.map fun (kind, value) => (kind, overrideValue overrides kind value)) ++
        overrides.filter fun (kind, _) => !Object.contains template kind := by
  simp only [mergeComponents]
  congr 1
  refine List.map_congr_left fun entry _ => ?_
  cases h : Object.find? overrides entry.1 <;> simp [overrideValue, h]

theorem keys_mergeComponents (template overrides : Object) :
    Object.keys (mergeComponents template overrides) =
      Object.keys template ++
        (Object.keys overrides).filter fun kind => kind ∉ Object.keys template := by
  rw [mergeComponents_eq, Object.keys, List.map_append, List.map_map, Object.keys, Object.keys,
    List.filter_map]
  congr 2
  refine List.filter_congr fun entry _ => ?_
  rw [Function.comp_apply, ← Object.keys, Bool.eq_iff_iff]
  simp [← Object.contains_iff]

/-- Looking up a kind in a list whose values are changed kind by kind. -/
theorem find?_mapValues (f : String → Json → Json) (kind : String) :
    ∀ object : Object, Object.find? (object.map fun (k, value) => (k, f k value)) kind =
      (Object.find? object kind).map (f kind)
  | [] => rfl
  | (first, value) :: rest => by
    rw [List.map_cons, Object.find?_cons, Object.find?_cons, find?_mapValues f kind rest]
    by_cases h : kind = first <;> simp [h]

theorem find?_filter_new (template : Object) {kind : String}
    (hkind : kind ∉ Object.keys template) :
    ∀ overrides : Object,
      Object.find? (overrides.filter fun (k, _) => !Object.contains template k) kind =
        Object.find? overrides kind
  | [] => rfl
  | (first, value) :: rest => by
    have ih := find?_filter_new template hkind rest
    by_cases hfirst : Object.contains template first
    · have hne : kind ≠ first := fun h => hkind (h ▸ (Object.contains_iff template first).1 hfirst)
      rw [List.filter_cons_of_neg (by simp [hfirst]), ih, Object.find?_cons, if_neg hne]
    · rw [List.filter_cons_of_pos (by simp [hfirst]), Object.find?_cons, Object.find?_cons, ih]

/-- A kind after merging : the template's value under its override, or the one that there is. -/
theorem find?_mergeComponents (template overrides : Object) (kind : String) :
    Object.find? (mergeComponents template overrides) kind =
      match Object.find? template kind with
      | some value => some (overrideValue overrides kind value)
      | none => Object.find? overrides kind := by
  rw [mergeComponents_eq, Object.find?, List.lookup_append, ← Object.find?, ← Object.find?,
    find?_mapValues]
  cases h : Object.find? template kind with
  | some value => rfl
  | none =>
    have hkind := (Object.find?_eq_none_iff template kind).1 h
    rw [find?_filter_new template hkind overrides]
    rfl

end Patch

/-- `merged` has the components of `node` under those of `part`. -/
structure Overridden (node : Template) (part : Patch) (merged : Template) : Prop where
  /-- The kinds of the node in their order, and then the new ones in theirs. -/
  kinds : Object.keys merged.components =
    Object.keys node.components ++
      (Object.keys part.components).filter fun kind => kind ∉ Object.keys node.components
  /-- A kind that only the node has. -/
  inherited : ∀ kind value, Object.find? node.components kind = some value →
    Object.find? part.components kind = none → Object.find? merged.components kind = some value
  /-- A kind that only the patch has. -/
  added : ∀ kind value, Object.find? node.components kind = none →
    Object.find? part.components kind = some value →
      Object.find? merged.components kind = some value
  /-- A kind that both have, but not both as objects. -/
  replaced : ∀ kind value override, Object.find? node.components kind = some value →
    Object.find? part.components kind = some override →
      (∀ base fields, ¬(value = .obj base ∧ override = .obj fields)) →
        Object.find? merged.components kind = some override
  /-- A kind that both have as objects : old fields in their order, each with its override if it has
  one, and then the new fields in theirs. -/
  fields : ∀ kind base fields, Object.find? node.components kind = some (.obj base) →
    Object.find? part.components kind = some (.obj fields) →
      Object.find? merged.components kind = some (.obj
        ((base.map fun (field, value) => (field, (Object.find? fields field).getD value)) ++
          fields.filter fun (field, _) => field ∉ Object.keys base))

theorem mergeComponent_of_not_objects {value override : Json}
    (h : ∀ base fields, ¬(value = .obj base ∧ override = .obj fields)) :
    Patch.mergeComponent value override = override := by
  unfold Patch.mergeComponent
  split
  · next base fields => exact absurd ⟨rfl, rfl⟩ (h base fields)
  · rfl

theorem overridden_apply {node : Template} {part : Patch} (hnode : node.WellFormed)
    (hpart : part.WellFormed) : Overridden node part (part.apply node).1 := by
  obtain ⟨hcomponents, -⟩ := hnode
  obtain ⟨hoverrides, -, -⟩ := hpart
  rw [Patch.apply_eq]
  refine ⟨Patch.keys_mergeComponents _ _, ?_, ?_, ?_, ?_⟩
  · intro kind value hvalue hnone
    simp only [Patch.find?_mergeComponents, hvalue, Patch.overrideValue, hnone]
    rfl
  · intro kind value hnone hvalue
    simp only [Patch.find?_mergeComponents, hnone, hvalue]
  · intro kind value override hvalue hoverride hmixed
    simp only [Patch.find?_mergeComponents, hvalue, Patch.overrideValue, hoverride,
      Option.map_some, Option.getD_some, mergeComponent_of_not_objects hmixed]
  · intro kind base fields hbase hfields
    have hbase' := (hcomponents.of_find? hbase).nodup_keys
    have hfields' := (hoverrides.of_find? hfields).nodup_keys
    simp only [Patch.find?_mergeComponents, hbase, Patch.overrideValue, hfields, Option.map_some,
      Option.getD_some, Patch.mergeComponent, Object.insertAll_eq hfields' hbase']

theorem wellFormed_mergeComponent {value override : Json} (hvalue : value.WellFormed)
    (hoverride : override.WellFormed) : (Patch.mergeComponent value override).WellFormed := by
  unfold Patch.mergeComponent
  split
  · next base fields =>
    cases hoverride with
    | obj _ hfields => exact hvalue.insertAll hfields
  · exact hoverride

theorem wellFormed_mergeComponents {template overrides : Object}
    (htemplate : (Json.obj template).WellFormed) (hoverrides : (Json.obj overrides).WellFormed) :
    (Json.obj (Patch.mergeComponents template overrides)).WellFormed := by
  refine .obj ?_ fun entry hentry => ?_
  · rw [Patch.keys_mergeComponents]
    refine htemplate.nodup_keys.append (hoverrides.nodup_keys.filter _) fun kind hold hnew => ?_
    simpa [hold] using (List.mem_filter.1 hnew).2
  · rw [Patch.mergeComponents_eq, List.mem_append, List.mem_map, List.mem_filter] at hentry
    rcases hentry with ⟨⟨kind, value⟩, hmem, rfl⟩ | ⟨hmem, -⟩
    · have hvalue : value.WellFormed := htemplate.of_mem hmem
      dsimp only [Patch.overrideValue]
      cases hfind : Object.find? overrides kind with
      | none => exact hvalue
      | some override => exact wellFormed_mergeComponent hvalue (hoverrides.of_find? hfind)
    · exact hoverrides.of_mem hmem

/-- A well-formed patch keeps templates well formed. -/
theorem wellFormed_apply {template : Template} (htemplate : template.WellFormed) :
    ∀ {patch : Patch}, patch.WellFormed → (patch.apply template).1.WellFormed := by
  induction htemplate with
  | @mk name tags components children hcomponents hchildren ih =>
    intro patch hpatch
    obtain ⟨hoverrides, -, hparts⟩ := hpatch
    rw [Patch.apply_eq]
    refine .mk (wellFormed_mergeComponents hcomponents hoverrides) fun merged hmerged => ?_
    obtain ⟨index, hindex⟩ := List.mem_iff_getElem?.1 hmerged
    rw [Patch.getElem?_applyChildren, Nat.zero_add] at hindex
    obtain ⟨child, hchild, rfl⟩ := Option.map_eq_some_iff.1 hindex
    have hmem : child ∈ children := List.mem_of_getElem? hchild
    split
    · next childPatch hfind => exact ih child hmem (hparts _ (mem_of_lookup hfind))
    · exact hchildren child hmem

/-! ## Children that do not exist -/

/-- An override of a child that the node at an address does not have. -/
structure Miss where
  address : List Nat
  node : Template
  /-- The position that is overridden. -/
  index : Nat

/-- The report of a missing child names the node. -/
def Miss.report (miss : Miss) : Diagnostic where
  code := .childOverrideOutOfRange
  message := "child override " ++ toString miss.index ++ " ignored; template node has " ++
    toString miss.node.children.length ++ " children"
  entity := some miss.node.name

/-- A walk that leaves a node after its children is done with the first address before the second
one. -/
def FinishedBefore : List Nat → List Nat → Prop
  | [], _ => False
  | _ :: _, [] => True
  | i :: a, j :: b => i < j ∨ i = j ∧ FinishedBefore a b

namespace Template

mutual

/-- The addresses of a tree, in the order in which a walk finishes them. -/
def addresses : Template → List (List Nat)
  | ⟨_, _, _, children⟩ => addressesAll 0 children ++ [[]]

/-- The addresses of subtrees, the first at position `index`. -/
def addressesAll (index : Nat) : List Template → List (List Nat)
  | [] => []
  | child :: rest => child.addresses.map (index :: ·) ++ addressesAll (index + 1) rest

end

theorem addresses_eq (template : Template) :
    template.addresses = addressesAll 0 template.children ++ [[]] := by
  cases template
  rw [addresses]

theorem mem_addressesAll {child : Template} {address : List Nat} (h : address ∈ child.addresses) :
    ∀ (index : Nat) (children : List Template) (i : Nat), children[i]? = some child →
      (index + i) :: address ∈ addressesAll index children
  | index, first :: rest, 0, hchild => by
    obtain rfl := Option.some.inj hchild
    rw [addressesAll]
    exact List.mem_append_left _ (List.mem_map_of_mem h)
  | index, first :: rest, i + 1, hchild => by
    rw [addressesAll, Nat.add_comm i, ← Nat.add_assoc]
    exact List.mem_append_right _ (mem_addressesAll h (index + 1) rest i hchild)

theorem mem_addresses : ∀ {address : List Nat} {template node : Template},
    template.at? address = some node → address ∈ template.addresses
  | [], template, _, _ => by simp [addresses_eq]
  | index :: rest, template, node, h => by
    obtain ⟨child, hchild, hrest⟩ := Option.bind_eq_some_iff.1 h
    have hmem := mem_addressesAll (mem_addresses hrest) 0 template.children index hchild
    rw [addresses_eq]
    rw [Nat.zero_add] at hmem
    exact List.mem_append_left _ hmem

theorem le_of_mem_addressesAll : ∀ {index : Nat} {children : List Template} {address : List Nat},
    address ∈ addressesAll index children → ∃ i rest, address = i :: rest ∧ index ≤ i
  | _, [], _, h => by simp [addressesAll] at h
  | index, child :: rest, address, h => by
    rw [addressesAll, List.mem_append, List.mem_map] at h
    rcases h with ⟨inner, -, rfl⟩ | h
    · exact ⟨index, inner, rfl, Nat.le_refl _⟩
    · obtain ⟨i, inner, rfl, hle⟩ := le_of_mem_addressesAll h
      exact ⟨i, inner, rfl, Nat.le_of_succ_le hle⟩

mutual

theorem pairwise_addresses : ∀ template : Template, template.addresses.Pairwise FinishedBefore
  | ⟨name, tags, components, children⟩ => by
    rw [addresses]
    refine List.pairwise_append.2 ⟨pairwise_addressesAll 0 children, List.pairwise_singleton _ _,
      fun a ha b hb => ?_⟩
    obtain ⟨i, rest, rfl, -⟩ := le_of_mem_addressesAll ha
    obtain rfl := List.mem_singleton.1 hb
    exact True.intro

theorem pairwise_addressesAll (index : Nat) :
    ∀ children : List Template, (addressesAll index children).Pairwise FinishedBefore
  | [] => by simp [addressesAll]
  | child :: rest => by
    rw [addressesAll]
    refine List.pairwise_append.2 ⟨List.pairwise_map.2 ?_, pairwise_addressesAll (index + 1) rest,
      fun a ha b hb => ?_⟩
    · exact (pairwise_addresses child).imp fun hab => Or.inr ⟨rfl, hab⟩
    · obtain ⟨inner, -, rfl⟩ := List.mem_map.1 ha
      obtain ⟨j, other, rfl, hle⟩ := le_of_mem_addressesAll hb
      exact Or.inl hle

end

end Template

/-- The children that a patch overrides and the node at an address does not have. -/
def missesAt (template : Template) (patch : Patch) (address : List Nat) : List Miss :=
  match template.at? address, patch.at? address with
  | some node, some part =>
    ((SortedMap.keys part.children).filter (node.children.length ≤ ·)).map fun index =>
      { address, node, index }
  | _, _ => []

/-- All of them, in the order in which the nodes are finished. -/
def misses (template : Template) (patch : Patch) : List Miss :=
  template.addresses.flatMap (missesAt template patch)

theorem mem_missesAt {template : Template} {patch : Patch} {address : List Nat} {miss : Miss} :
    miss ∈ missesAt template patch address ↔
      miss.address = address ∧ template.at? address = some miss.node ∧
        ∃ part, patch.at? address = some part ∧ miss.index ∈ SortedMap.keys part.children ∧
          miss.node.children.length ≤ miss.index := by
  obtain ⟨a, node, index⟩ := miss
  unfold missesAt
  cases hnode : template.at? address with
  | none => simp
  | some found =>
    cases hpart : patch.at? address with
    | none => simp
    | some part =>
      simp only [List.mem_map, List.mem_filter, decide_eq_true_eq, Miss.mk.injEq, Option.some.injEq,
        exists_eq_left']
      constructor
      · rintro ⟨i, ⟨hmem, hle⟩, rfl, rfl, rfl⟩
        exact ⟨rfl, rfl, hmem, hle⟩
      · rintro ⟨rfl, rfl, hmem, hle⟩
        exact ⟨index, ⟨hmem, hle⟩, rfl, rfl, rfl⟩

theorem mem_misses {template : Template} {patch : Patch} {miss : Miss} :
    miss ∈ misses template patch ↔
      template.at? miss.address = some miss.node ∧
        ∃ part, patch.at? miss.address = some part ∧ miss.index ∈ SortedMap.keys part.children ∧
          miss.node.children.length ≤ miss.index := by
  unfold misses
  rw [List.mem_flatMap]
  constructor
  · rintro ⟨address, -, hmiss⟩
    obtain ⟨rfl, hrest⟩ := mem_missesAt.1 hmiss
    exact hrest
  · intro h
    exact ⟨miss.address, Template.mem_addresses h.1, mem_missesAt.2 ⟨rfl, h⟩⟩

theorem pairwise_misses (template : Template) {patch : Patch} (hpatch : patch.WellFormed) :
    (misses template patch).Pairwise fun x y =>
      FinishedBefore x.address y.address ∨ x.address = y.address ∧ x.index < y.index := by
  refine List.pairwise_flatMap.2 ⟨fun address _ => ?_, ?_⟩
  · unfold missesAt
    split
    · next node part _ hpart =>
      obtain ⟨-, hascending, -⟩ := hpatch.of_at? hpart
      exact List.pairwise_map.2 ((hascending.filter _).imp fun hlt => .inr ⟨rfl, hlt⟩)
    · exact .nil
  · refine (Template.pairwise_addresses template).imp fun hab x hx y hy => .inl ?_
    obtain ⟨rfl, -⟩ := mem_missesAt.1 hx
    obtain ⟨rfl, -⟩ := mem_missesAt.1 hy
    exact hab

theorem outOfRange_eq (patch : Patch) (address : List Nat) (node : Template) :
    patch.outOfRange node.name node.children.length =
      (((SortedMap.keys patch.children).filter (node.children.length ≤ ·)).map fun index =>
        ({ address, node, index } : Miss)).map Miss.report := by
  unfold Patch.outOfRange SortedMap.keys
  rw [List.filter_map, List.map_map, List.map_map]
  rfl

/-- The misses below a child are those of the child's own part of the patch. -/
theorem missesAt_cons (template : Template) (patch : Patch) {index : Nat} {child : Template}
    (hchild : template.children[index]? = some child) (address : List Nat) :
    (missesAt template patch (index :: address)).map Miss.report =
      match SortedMap.find? patch.children index with
      | some childPatch => (missesAt child childPatch address).map Miss.report
      | none => [] := by
  unfold missesAt
  rw [Template.at?, Patch.at?, hchild, Option.bind_some]
  cases SortedMap.find? patch.children index with
  | none => cases child.at? address <;> rfl
  | some childPatch =>
    cases child.at? address with
    | none => rfl
    | some node =>
      cases hpart : childPatch.at? address with
      | none => simp [hpart]
      | some part =>
        simp only [hpart, Option.bind_some]
        rw [← outOfRange_eq, ← outOfRange_eq]

mutual

/-- Merging reports the misses. -/
theorem diagnostics_apply (patch : Patch) :
    ∀ template : Template,
      (patch.apply template).2 =
        template.addresses.flatMap fun address => (missesAt template patch address).map Miss.report
  | ⟨name, tags, components, children⟩ => by
    rw [Patch.apply_eq, Template.addresses, List.flatMap_append, List.flatMap_singleton]
    refine congrArg₂ (· ++ ·) ?_ ?_
    · refine diagnostics_applyChildren patch _ 0 children fun i child hchild address => ?_
      rw [Nat.zero_add]
      exact missesAt_cons ⟨name, tags, components, children⟩ patch hchild address
    · exact outOfRange_eq patch [] ⟨name, tags, components, children⟩

/-- The reports of the children, as far as they are seen from the parent. -/
theorem diagnostics_applyChildren (patch : Patch) (reports : List Nat → List Diagnostic) :
    ∀ (index : Nat) (children : List Template),
      (∀ i child, children[i]? = some child → ∀ address, reports ((index + i) :: address) =
        match SortedMap.find? patch.children (index + i) with
        | some childPatch => (missesAt child childPatch address).map Miss.report
        | none => []) →
      (patch.applyChildren index children).2 =
        (Template.addressesAll index children).flatMap reports
  | _, [], _ => by simp [Patch.applyChildren, Template.addressesAll]
  | index, child :: rest, h => by
    have hrest := diagnostics_applyChildren patch reports (index + 1) rest
      fun i other hother address => by
        have := h (i + 1) other hother address
        rwa [Nat.add_comm i, ← Nat.add_assoc] at this
    have hchild : ∀ address, reports (index :: address) = _ := h 0 child rfl
    rw [Patch.applyChildren, Template.addressesAll, List.flatMap_append, ← hrest,
      List.flatMap_map]
    simp only [hchild]
    cases hfind : SortedMap.find? patch.children index with
    | none => simp
    | some childPatch => simp [diagnostics_apply childPatch child]

end

/-- A patch and a template : every node of the merged tree, and the reports. -/
theorem apply_overrides {template : Template} {patch : Patch} (htemplate : template.WellFormed)
    (hpatch : patch.WellFormed) :
    (∀ address, (patch.apply template).1.at? address = none ↔ template.at? address = none) ∧
      (∀ address node, template.at? address = some node →
        ∃ merged, (patch.apply template).1.at? address = some merged ∧
          merged.name = node.name ∧ merged.tags = node.tags ∧
          merged.children.length = node.children.length ∧
          (∀ part, patch.at? address = some part → Overridden node part merged) ∧
          (patch.at? address = none → merged = node)) ∧
      ∃ misses : List Miss,
        (∀ miss, miss ∈ misses ↔
          template.at? miss.address = some miss.node ∧
            ∃ part, patch.at? miss.address = some part ∧
              miss.index ∈ SortedMap.keys part.children ∧
              miss.node.children.length ≤ miss.index) ∧
        (misses.Pairwise fun x y =>
          FinishedBefore x.address y.address ∨ x.address = y.address ∧ x.index < y.index) ∧
        (patch.apply template).2 = misses.map Miss.report := by
  refine ⟨fun address => ?_, fun address node hnode => ?_, misses template patch,
    fun miss => mem_misses, pairwise_misses template hpatch, ?_⟩
  · rw [Patch.at?_apply, Option.map_eq_none_iff]
  · rw [Patch.at?_apply, hnode]
    cases hpart : patch.at? address with
    | none => exact ⟨node, rfl, rfl, rfl, rfl, by simp, fun _ => rfl⟩
    | some part =>
      refine ⟨(part.apply node).1, rfl, ?_, ?_, ?_, ?_, by simp⟩
      · rw [Patch.apply_eq]
      · rw [Patch.apply_eq]
      · rw [Patch.apply_eq, Patch.length_applyChildren]
      · intro part' hpart'
        obtain rfl := Option.some.inj hpart'
        exact overridden_apply (htemplate.of_at? hnode) (hpatch.of_at? hpart)
  · rw [diagnostics_apply, misses, List.map_flatMap]

/-- A bulb with a light and a note. -/
def bulb : Template where
  name := "bulb"
  components := [("Light", .obj [("range", .num (.int 5)), ("decay", .num (.int 1))]),
    ("Note", .str "warm")]

/-- The light gets another range and an angle, the note becomes an object, and a child that the bulb
does not have is overridden. -/
def bulbPatch : Patch where
  components := [("Note", .obj []), ("Sound", .null),
    ("Light", .obj [("angle", .num (.int 2)), ("range", .num (.int 9))])]
  children := [(0, {})]

/-- The bulb and its overrides have no key twice. -/
theorem wellFormed_bulb : bulb.WellFormed ∧ bulbPatch.WellFormed := by
  refine ⟨.mk (.obj (by decide) ?_) (by simp), .mk (.obj (by decide) ?_) (by decide) ?_⟩
  · simp only [List.forall_mem_cons]
    exact ⟨.obj (by decide) (by simp [Json.WellFormed.num]), .str _, by simp⟩
  · simp only [List.forall_mem_cons]
    exact ⟨Json.wellFormed_nil, .null, .obj (by decide) (by simp [Json.WellFormed.num]), by simp⟩
  · simp only [List.forall_mem_cons]
    exact ⟨.mk Json.wellFormed_nil .nil (by simp), by simp⟩

/-- The overrides of a lamp whose second child is a bulb. -/
def lampPatch : Patch where
  children := [(1, bulbPatch)]

theorem apply_overrides_bulb :
    ∃ merged,
      (lampPatch.apply { name := "lamp", children := [.named "cord", bulb] }).1.at? [1] =
          some merged ∧ merged.name = "bulb" ∧ Overridden bulb bulbPatch merged := by
  obtain ⟨hbulb, hpatch⟩ := wellFormed_bulb
  have hlamp : Template.WellFormed { name := "lamp", children := [.named "cord", bulb] } := by
    refine .mk Json.wellFormed_nil ?_
    simp only [List.forall_mem_cons]
    exact ⟨.mk Json.wellFormed_nil (by simp), hbulb, by simp⟩
  have hlampPatch : lampPatch.WellFormed :=
    .mk Json.wellFormed_nil (List.pairwise_singleton _ _) (by simpa using hpatch)
  obtain ⟨merged, hmerged, hname, -, -, hpart, -⟩ :=
    (apply_overrides hlamp hlampPatch).2.1 [1] bulb rfl
  exact ⟨merged, hmerged, hname, hpart bulbPatch rfl⟩

end SceneLoad
