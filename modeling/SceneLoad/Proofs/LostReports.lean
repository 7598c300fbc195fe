import SceneLoad.Proofs.EditedTemplates
import SceneLoad.Proofs.Preorder
import SceneLoad.Proofs.StandardDecoders

/-!
# Reports that are lost

A component that a registry rejects (`DecoderRegistry.Rejects`) leaves a report and nothing else. So
without it the same components are decoded, and the log loses that report (`Loses`). This module
follows such a component of a template through an attempt at an instance.

Two trees of which one lacks the component are visited alike (`edited_preorder`). `Edited` flags the
visits that find it missing, and `stamp_edited` has one report less for each flag whose record is
built. An attempt that runs out of runtime ids has built some of its records, and has reported of
these : `Instantiator.builtFrom` are the records that are built from the node at an address, whether
the attempt comes to an instance or not. `instantiate_withoutComponent` is the comparison of the two
attempts.
-/

namespace SceneLoad

open Visit

/-! ## Logs that lose reports -/

/-- Some reports are left out of a log, wherever they stand, and nothing else. -/
structure Loses (full less removed : List Diagnostic) : Prop where
  sublist : less.Sublist full
  perm : full.Perm (less ++ removed)

namespace Loses

variable {full full' less less' removed removed' : List Diagnostic}

theorem refl (log : List Diagnostic) : Loses log log [] :=
  ⟨.refl log, by rw [List.append_nil]⟩

theorem append (h : Loses full less removed) (h' : Loses full' less' removed') :
    Loses (full ++ full') (less ++ less') (removed ++ removed') := by
  refine ⟨h.sublist.append h'.sublist, (h.perm.append h'.perm).trans ?_⟩
  have hswap : (removed ++ less').Perm (less' ++ removed) := List.perm_append_comm
  have hmiddle : (less ++ (removed ++ less') ++ removed').Perm
      (less ++ (less' ++ removed) ++ removed') := (hswap.append_left less).append_right removed'
  simpa only [List.append_assoc] using hmiddle

theorem of_split (first removed rest : List Diagnostic) :
    Loses (first ++ removed ++ rest) (first ++ rest) removed := by
  have hfirst : Loses removed [] removed := ⟨List.nil_sublist removed, .refl removed⟩
  simpa using ((refl first).append hfirst).append (refl rest)

end Loses

/-! ## One component -/

theorem SortedMap.erase_of_find?_eq_none {κ α : Type} [DecidableEq κ] {map : SortedMap κ α}
    {key : κ} (h : find? map key = none) : erase key map = map := by
  rw [find?, List.lookup_eq_none_iff] at h
  refine List.filter_eq_self.2 fun entry hmem => ?_
  have hne : key ≠ entry.1 := by simpa using h entry hmem
  simpa using hne.symm

/-- A decoder gives nothing for a component but the reason why. -/
structure DecoderRegistry.Rejects (registry : DecoderRegistry) (kind : String) (payload : Json)
    (error : DecodeError) : Prop where
  result : (registry.decode kind payload).result = .error error
  reported : (registry.decode kind payload).reported = []

/-- The standard decoders say nothing else of a component that they do not decode. -/
theorem rejects_standard {kind : String} {payload : Json} {error : DecodeError}
    (h : (DecoderRegistry.standard.decode kind payload).result = .error error) :
    DecoderRegistry.standard.Rejects kind payload error := by
  refine ⟨h, ?_⟩
  rcases reported_standard kind payload with hnone | ⟨⟨transform, hok⟩, -⟩
  · exact hnone
  · rw [h] at hok
    cases hok

namespace DecoderRegistry

variable {registry : DecoderRegistry} {kind : String} {payload : Json} {error : DecodeError}

theorem Rejects.diagnostics (h : registry.Rejects kind payload error) (entity : String) :
    (registry.decodeEntries entity [(kind, payload)]).diagnostics =
      [error.diagnostic.within entity] := by
  simp [decodeEntries, DecodeOutcome.diagnostics, h.result, h.reported]

/-- Without a component that is rejected, the same components are decoded and it is not spoken
of. -/
theorem Rejects.decodeEntries_erase (h : registry.Rejects kind payload error) {entries : Object}
    (hkeys : (Object.keys entries).Nodup) (hfind : Object.find? entries kind = some payload)
    (entity : String) :
    (registry.decodeEntries entity (Object.erase kind entries)).components =
        (registry.decodeEntries entity entries).components ∧
      Loses (registry.decodeEntries entity entries).diagnostics
        (registry.decodeEntries entity (Object.erase kind entries)).diagnostics
        [error.diagnostic.within entity] := by
  refine ⟨?_, ?_⟩
  · have hnone : SortedMap.find? (registry.decodeEntries entity entries).components kind =
        none := by
      rw [find?_decodeEntries registry entity kind hkeys, hfind, Option.bind_some, h.result]
      rfl
    rw [components_decodeEntries_erase, SortedMap.erase_of_find?_eq_none hnone]
  · obtain ⟨first, rest, hsplit, herase⟩ := Object.exists_split kind hkeys
    rw [Object.filter_eq_of_find? hkeys hfind] at hsplit
    rw [herase, diagnostics_decodeEntries_append, hsplit, diagnostics_decodeEntries_append,
      diagnostics_decodeEntries_append, h.diagnostics]
    exact .of_split ..

end DecoderRegistry

/-! ## Trees -/

mutual

/-- The addresses of the nodes of a tree that are kept, in pre-order. -/
def keptAddresses (maxDepth level : Nat) : Template → List (List Nat)
  | ⟨_, _, components, children⟩ =>
    if maxDepth < level then []
    else if Object.contains components PrefabInstance.kind then []
    else [] :: keptAddressesAll maxDepth (level + 1) 0 children

/-- The addresses of those of several trees, the first of which is at position `index`. -/
def keptAddressesAll (maxDepth level index : Nat) : List Template → List (List Nat)
  | [] => []
  | child :: rest =>
    (keptAddresses maxDepth level child).map (index :: ·) ++
      keptAddressesAll maxDepth level (index + 1) rest

end

mutual

/-- The kept nodes are those at the kept addresses, in the same order. -/
theorem at?_keptAddresses (maxDepth : Nat) (key parent : String) (level number : Nat) :
    ∀ template : Template, (keptAddresses maxDepth level template).map template.at? =
      (keptNodes (preorder maxDepth key parent level number template)).map fun item =>
        some item.node
  | ⟨name, tags, components, children⟩ => by
    rw [keptAddresses, preorder]
    split_ifs
    · rfl
    · rfl
    · rw [keptNodes_kept, List.map_cons, List.map_cons]
      have hchildren := at?_keptAddressesAll maxDepth key (nodeId key number) (level + 1)
        (number + 1) 0 children ⟨name, tags, components, children⟩ fun n => by rw [Nat.zero_add]
      rw [hchildren]
      rfl

theorem at?_keptAddressesAll (maxDepth : Nat) (key parent : String) (level number index : Nat) :
    ∀ (templates : List Template) (template : Template),
      (∀ n, template.children[index + n]? = templates[n]?) →
        (keptAddressesAll maxDepth level index templates).map template.at? =
          (keptNodes (preorderAll maxDepth key parent level number templates)).map fun item =>
            some item.node
  | [], _, _ => by rw [keptAddressesAll, preorderAll]; rfl
  | child :: rest, template, h => by
    have hchild := at?_keptAddresses maxDepth key parent level number child
    have hrest := at?_keptAddressesAll maxDepth key parent level
      (number + (keptNodes (preorder maxDepth key parent level number child)).length) (index + 1)
      rest template fun n => by rw [Nat.add_assoc, Nat.add_comm 1, h, List.getElem?_cons_succ]
    have hfirst : template.children[index]? = some child := h 0
    rw [keptAddressesAll, preorderAll, List.map_append, keptNodes_append, List.map_append, hrest,
      ← hchild, List.map_map]
    congr 1
    refine List.map_congr_left fun address _ => ?_
    rw [Function.comp_apply, Template.at?, hfirst, Option.bind_some]

end

/-- Two pending nodes that differ in components and children at most. -/
structure PendingNode.SameOutline (item item' : PendingNode) : Prop where
  name : item'.node.name = item.node.name
  tags : item'.node.tags = item.node.tags
  parent : item'.parent = item.parent

/-- Two lists of visits of which the second lacks a component at some nodes. The flags tell these
among the kept ones. -/
inductive Edited (kind : String) (payload : Json) : List Bool → List Visit → List Visit → Prop
  | nil : Edited kind payload [] [] []
  | tooDeep {item item' : PendingNode} {flags : List Bool} {visits visits' : List Visit}
      (hitem : item.SameOutline item') (hrest : Edited kind payload flags visits visits') :
      Edited kind payload flags (.tooDeep item :: visits) (.tooDeep item' :: visits')
  | nested {item item' : PendingNode} {flags : List Bool} {visits visits' : List Visit}
      (hitem : item.SameOutline item') (hrest : Edited kind payload flags visits visits') :
      Edited kind payload flags (.nested item :: visits) (.nested item' :: visits')
  | kept {item item' : PendingNode} (number : Nat) {flags : List Bool}
      {visits visits' : List Visit} (hitem : item.SameOutline item')
      (hcomponents : item'.node.components = item.node.components)
      (hrest : Edited kind payload flags visits visits') :
      Edited kind payload (false :: flags) (.kept item number :: visits)
        (.kept item' number :: visits')
  | lacking {item item' : PendingNode} (number : Nat) {flags : List Bool}
      {visits visits' : List Visit} (hitem : item.SameOutline item')
      (hkeys : (Object.keys item.node.components).Nodup)
      (hfind : Object.find? item.node.components kind = some payload)
      (hcomponents : item'.node.components = Object.erase kind item.node.components)
      (hrest : Edited kind payload flags visits visits') :
      Edited kind payload (true :: flags) (.kept item number :: visits)
        (.kept item' number :: visits')

namespace Edited

variable {kind : String} {payload : Json}

/-- Nothing is taken from visits that stay as they are. -/
theorem refl : ∀ visits : List Visit,
    Edited kind payload (List.replicate (keptNodes visits).length false) visits visits
  | [] => .nil
  | .tooDeep _ :: rest => .tooDeep ⟨rfl, rfl, rfl⟩ (refl rest)
  | .nested _ :: rest => .nested ⟨rfl, rfl, rfl⟩ (refl rest)
  | .kept _ number :: rest => .kept number ⟨rfl, rfl, rfl⟩ rfl (refl rest)

theorem append {flags flags' : List Bool} {visits visits' more more' : List Visit}
    (h : Edited kind payload flags visits visits') (h' : Edited kind payload flags' more more') :
    Edited kind payload (flags ++ flags') (visits ++ more) (visits' ++ more') := by
  induction h with
  | nil => exact h'
  | tooDeep hitem _ ih => exact .tooDeep hitem ih
  | nested hitem _ ih => exact .nested hitem ih
  | kept number hitem hcomponents _ ih => exact .kept number hitem hcomponents ih
  | lacking number hitem hkeys hfind hcomponents _ ih =>
    exact .lacking number hitem hkeys hfind hcomponents ih

theorem length_keptNodes {flags : List Bool} {visits visits' : List Visit}
    (h : Edited kind payload flags visits visits') :
    (keptNodes visits').length = (keptNodes visits).length := by
  induction h with
  | nil => rfl
  | tooDeep _ _ ih => exact ih
  | nested _ _ ih => exact ih
  | kept _ _ _ _ ih => exact congrArg (· + 1) ih
  | lacking _ _ _ _ _ _ ih => exact congrArg (· + 1) ih

end Edited

section Trees

variable {kind : String} {payload : Json} (maxDepth : Nat) (key : String)

theorem keptAddresses_eq (level : Nat) (template : Template) :
    keptAddresses maxDepth level template =
      if maxDepth < level then []
      else if Object.contains template.components PrefabInstance.kind then []
      else [] :: keptAddressesAll maxDepth (level + 1) 0 template.children := by
  cases template
  rw [keptAddresses]

/-- An address below several trees begins with the position of one of them. -/
theorem exists_cons_of_mem_keptAddressesAll {maxDepth : Nat} {address : List Nat} :
    ∀ {level index : Nat} {templates : List Template},
      address ∈ keptAddressesAll maxDepth level index templates →
        ∃ first rest, address = first :: rest ∧ index ≤ first
  | _, _, [], h => by simp [keptAddressesAll] at h
  | level, index, child :: others, h => by
    rw [keptAddressesAll] at h
    rcases List.mem_append.1 h with h | h
    · obtain ⟨rest, -, rfl⟩ := List.mem_map.1 h
      exact ⟨index, rest, rfl, Nat.le_refl index⟩
    · obtain ⟨first, rest, heq, hle⟩ := exists_cons_of_mem_keptAddressesAll h
      exact ⟨first, rest, heq, Nat.le_of_succ_le hle⟩

theorem le_of_mem_keptAddressesAll {maxDepth level index first : Nat} {rest : List Nat}
    {templates : List Template}
    (h : first :: rest ∈ keptAddressesAll maxDepth level index templates) : index ≤ first := by
  obtain ⟨first', rest', heq, hle⟩ := exists_cons_of_mem_keptAddressesAll h
  exact (List.cons.inj heq).1 ▸ hle

theorem nil_notMem_keptAddressesAll {maxDepth level index : Nat} {templates : List Template} :
    [] ∉ keptAddressesAll maxDepth level index templates := by
  intro h
  obtain ⟨first, rest, heq, -⟩ := exists_cons_of_mem_keptAddressesAll h
  cases heq

/-- Trees stay as they are where the address is not one of theirs. -/
theorem edited_refl {addresses : List (List Nat)} {address : List Nat} {visits : List Visit}
    (hlength : addresses.length = (keptNodes visits).length) (hnot : address ∉ addresses) :
    Edited kind payload (addresses.map fun other => decide (other = address)) visits visits := by
  have hflags : (addresses.map fun other => decide (other = address)) =
      List.replicate (keptNodes visits).length false := by
    rw [← hlength, ← List.map_const']
    refine List.map_congr_left fun other hmem => decide_eq_false ?_
    rintro rfl
    exact hnot hmem
  rw [hflags]
  exact .refl visits

theorem length_keptAddresses (parent : String) (level number : Nat) (template : Template) :
    (keptAddresses maxDepth level template).length =
      (keptNodes (preorder maxDepth key parent level number template)).length := by
  have hnodes := congrArg List.length
    (at?_keptAddresses maxDepth key parent level number template)
  rwa [List.length_map, List.length_map] at hnodes

theorem length_keptAddressesAll (parent : String) : ∀ (level number index : Nat)
    (templates : List Template), (keptAddressesAll maxDepth level index templates).length =
      (keptNodes (preorderAll maxDepth key parent level number templates)).length
  | _, _, _, [] => by rw [keptAddressesAll, preorderAll]; rfl
  | level, number, index, child :: rest => by
    rw [keptAddressesAll, preorderAll, keptNodes_append, List.length_append, List.length_append,
      List.length_map, length_keptAddresses maxDepth key parent level number,
      length_keptAddressesAll parent level]

/-- Of several trees, one lacks the component. -/
theorem edited_preorderAll {parent : String} {level : Nat} {rest : List Nat}
    {change : Template → Template} {child : Template}
    (hchild : ∀ number, Edited kind payload
      ((keptAddresses maxDepth level child).map fun other => decide (other = rest))
      (preorder maxDepth key parent level number child)
      (preorder maxDepth key parent level number (change child))) :
    ∀ (templates : List Template) (number index position : Nat),
      templates[position]? = some child →
        Edited kind payload
          ((keptAddressesAll maxDepth level index templates).map fun other =>
            decide (other = (index + position) :: rest))
          (preorderAll maxDepth key parent level number templates)
          (preorderAll maxDepth key parent level number (templates.modify position change))
  | [], _, _, _, h => by simp at h
  | first :: others, number, index, 0, h => by
    obtain rfl : first = child := Option.some.inj h
    -- The later trees are numbered from the count of kept nodes, which stays.
    have hcount := (hchild number).length_keptNodes
    have hflags : ((keptAddresses maxDepth level first).map (index :: ·)).map
        (fun other => decide (other = (index + 0) :: rest)) =
          (keptAddresses maxDepth level first).map fun other => decide (other = rest) := by
      rw [List.map_map]
      refine List.map_congr_left fun other _ => ?_
      simp
    have hothers : (index + 0) :: rest ∉ keptAddressesAll maxDepth level (index + 1) others := by
      intro hmem
      have hlater := le_of_mem_keptAddressesAll hmem
      omega
    rw [List.modify_zero_cons, keptAddressesAll, preorderAll, preorderAll, List.map_append, hflags,
      hcount]
    exact (hchild number).append (edited_refl (length_keptAddressesAll maxDepth key ..) hothers)
  | first :: others, number, index, position + 1, h => by
    rw [List.getElem?_cons_succ] at h
    have hfirst : (index + (position + 1)) :: rest ∉
        (keptAddresses maxDepth level first).map (index :: ·) := by
      intro hmem
      obtain ⟨address, -, heq⟩ := List.mem_map.1 hmem
      have hindex := (List.cons.inj heq).1
      omega
    have hlength : ((keptAddresses maxDepth level first).map (index :: ·)).length =
        (keptNodes (preorder maxDepth key parent level number first)).length := by
      rw [List.length_map, length_keptAddresses maxDepth key parent level number]
    have hothers := edited_preorderAll hchild others
      (number + (keptNodes (preorder maxDepth key parent level number first)).length) (index + 1)
      position h
    rw [Nat.add_assoc, Nat.add_comm 1] at hothers
    rw [List.modify_succ_cons, keptAddressesAll, preorderAll, preorderAll, List.map_append]
    exact (edited_refl hlength hfirst).append hothers

/-- A tree without the component is visited as the tree with it. -/
theorem edited_preorder (hkind : kind ≠ PrefabInstance.kind) :
    ∀ (address : List Nat) {template node : Template}, template.at? address = some node →
      (Object.keys node.components).Nodup →
      Object.find? node.components kind = some payload →
      ∀ (parent : String) (level number : Nat),
        Edited kind payload
          ((keptAddresses maxDepth level template).map fun other => decide (other = address))
          (preorder maxDepth key parent level number template)
          (preorder maxDepth key parent level number (template.withoutComponent kind address))
  | [], template, node, hnode, hkeys, hfind, parent, level, number => by
    obtain rfl : template = node := Option.some.inj hnode
    have hmarked : Object.contains (template.withoutComponent kind []).components
        PrefabInstance.kind = Object.contains template.components PrefabInstance.kind :=
      congrArg Option.isSome (Object.find?_erase_of_ne hkind.symm template.components)
    have hfull := preorder_eq maxDepth key number ⟨template, parent, level⟩
    have hless := preorder_eq maxDepth key number
      ⟨template.withoutComponent kind [], parent, level⟩
    dsimp only at hfull hless
    rw [keptAddresses_eq, hfull, hless, hmarked]
    split_ifs
    · exact .tooDeep ⟨rfl, rfl, rfl⟩ .nil
    · exact .nested ⟨rfl, rfl, rfl⟩ .nil
    · refine .lacking number ⟨rfl, rfl, rfl⟩ hkeys hfind rfl ?_
      exact edited_refl (length_keptAddressesAll maxDepth key ..) nil_notMem_keptAddressesAll
  | index :: rest, template, node, hnode, hkeys, hfind, parent, level, number => by
    obtain ⟨child, hchild, hnode⟩ := Option.bind_eq_some_iff.1 hnode
    have hfull := preorder_eq maxDepth key number ⟨template, parent, level⟩
    have hless := preorder_eq maxDepth key number
      ⟨template.withoutComponent kind (index :: rest), parent, level⟩
    have hedited := edited_preorderAll maxDepth key
      (edited_preorder hkind rest hnode hkeys hfind (nodeId key number) (level + 1))
      template.children (number + 1) 0 index hchild
    rw [Nat.zero_add] at hedited
    have hmarked : Object.contains (template.withoutComponent kind (index :: rest)).components
        PrefabInstance.kind = Object.contains template.components PrefabInstance.kind := rfl
    dsimp only at hfull hless
    rw [keptAddresses_eq, hfull, hless, hmarked]
    split_ifs
    · exact .tooDeep ⟨rfl, rfl, rfl⟩ .nil
    · exact .nested ⟨rfl, rfl, rfl⟩ .nil
    · exact .kept number ⟨rfl, rfl, rfl⟩ rfl hedited

end Trees

/-! ## Instances -/

/-- Reports are left out of a walk, and nothing else. -/
abbrev Walk.LosesReports (full less : Walk) (removed : List Diagnostic) : Prop :=
  full.Related Eq (fun log log' => Loses log log' removed) less

/-- The records that are flagged. -/
def flagged (flags : List Bool) (records : List Record) : List Record :=
  ((flags.zip records).filter Prod.fst).map Prod.snd

theorem flagged_replicate (count : Nat) (records : List Record) :
    flagged (List.replicate count false) records = [] := by
  rw [flagged, List.map_eq_nil_iff, List.filter_eq_nil_iff]
  rintro ⟨flag, record⟩ hmem
  rw [List.eq_of_mem_replicate (List.of_mem_zip hmem).1]
  exact Bool.false_ne_true

section Walks

variable {decoders : DecoderRegistry} {kind : String} {payload : Json} {error : DecodeError}
  {item item' : PendingNode}

theorem recordOf_of_kept (hitem : item.SameOutline item')
    (hcomponents : item'.node.components = item.node.components) (id : EntityId)
    (persistentId : String) :
    Instantiator.recordOf decoders item'.node id persistentId item'.parent =
      Instantiator.recordOf decoders item.node id persistentId item.parent := by
  unfold Instantiator.recordOf
  rw [hitem.name, hitem.tags, hitem.parent, hcomponents]

/-- A node without a component that is rejected becomes the same record. -/
theorem recordOf_of_lacking (h : decoders.Rejects kind payload error)
    (hkind : kind ≠ PersistentId.kind) (hitem : item.SameOutline item')
    (hkeys : (Object.keys item.node.components).Nodup)
    (hfind : Object.find? item.node.components kind = some payload)
    (hcomponents : item'.node.components = Object.erase kind item.node.components)
    (id : EntityId) (persistentId : String) :
    (Instantiator.recordOf decoders item'.node id persistentId item'.parent).1 =
        (Instantiator.recordOf decoders item.node id persistentId item.parent).1 ∧
      Loses (Instantiator.recordOf decoders item.node id persistentId item.parent).2
        (Instantiator.recordOf decoders item'.node id persistentId item'.parent).2
        [error.diagnostic.within persistentId] := by
  have hswap : Object.erase PersistentId.kind (Object.erase kind item.node.components) =
      Object.erase kind (Object.erase PersistentId.kind item.node.components) := by
    simp only [Object.erase, List.filter_filter, Bool.and_comm]
  have hkeys' : (Object.keys (Object.erase PersistentId.kind item.node.components)).Nodup :=
    Object.nodup_keys_erase hkeys PersistentId.kind
  have hfind' : Object.find? (Object.erase PersistentId.kind item.node.components) kind =
      some payload := by
    rw [Object.find?_erase_of_ne hkind, hfind]
  obtain ⟨hdecoded, hreports⟩ := h.decodeEntries_erase hkeys' hfind' persistentId
  rw [← hswap, ← hcomponents] at hdecoded hreports
  refine ⟨?_, hreports⟩
  unfold Instantiator.recordOf
  dsimp only
  rw [hitem.name, hitem.tags, hitem.parent]
  exact congrArg (Record.mk id persistentId item.node.name (some item.parent) item.node.tags)
    hdecoded

theorem tooDeep_of_sameOutline (hitem : item.SameOutline item') (prefabId : String)
    {maxDepth maxDepth' : Nat} (hdepth : maxDepth' = maxDepth) :
    Loses [Instantiator.tooDeep prefabId maxDepth item]
      [Instantiator.tooDeep prefabId maxDepth' item'] [] := by
  unfold Instantiator.tooDeep
  rw [hitem.name, hitem.parent, hdepth]
  exact .refl _

theorem nestedInstance_of_sameOutline (hitem : item.SameOutline item') (prefabId : String) :
    Loses [Instantiator.nestedInstance prefabId item]
      [Instantiator.nestedInstance prefabId item'] [] := by
  unfold Instantiator.nestedInstance
  rw [hitem.name, hitem.parent]
  exact .refl _

/-- Visits without a component that is rejected come to the same records, and its reports are
missing. -/
theorem stamp_edited {self self' : Instantiator} (hdecoders : self'.decoders = self.decoders)
    (hdepth : self'.maxDepth = self.maxDepth) (h : self.decoders.Rejects kind payload error)
    (hkind : kind ≠ PersistentId.kind) (prefabId key : String) {flags : List Bool}
    {visits visits' : List Visit} (hedited : Edited kind payload flags visits visits') :
    ∀ ids : IdAllocator,
      (stamp self prefabId key ids visits).LosesReports (stamp self' prefabId key ids visits')
        ((flagged flags (stamp self prefabId key ids visits).records).map fun record =>
          error.diagnostic.within record.persistentId) := by
  induction hedited with
  | nil => exact fun ids => ⟨rfl, .refl _, rfl, rfl⟩
  | tooDeep hitem _ ih =>
    intro ids
    exact (ih ids).reporting fun log log' =>
      (tooDeep_of_sameOutline hitem prefabId hdepth).append
  | nested hitem _ ih =>
    intro ids
    exact (ih ids).reporting fun log log' => (nestedInstance_of_sameOutline hitem prefabId).append
  | kept number hitem hcomponents _ ih =>
    intro ids
    rw [stamp, stamp]
    cases ids.allocate with
    | none => exact ⟨rfl, .refl _, rfl, rfl⟩
    | some next =>
      dsimp only
      rw [hdecoders, recordOf_of_kept hitem hcomponents]
      exact ((ih next.2).recording fun _ _ => congrArg _).reporting fun log log' =>
        (Loses.refl _).append
  | lacking number hitem hkeys hfind hcomponents _ ih =>
    intro ids
    rw [stamp, stamp]
    cases ids.allocate with
    | none => exact ⟨rfl, .refl _, rfl, rfl⟩
    | some next =>
      dsimp only
      obtain ⟨hrecord, hreports⟩ := recordOf_of_lacking h hkind hitem hkeys hfind hcomponents
        next.1 (nodeId key number)
      rw [hdecoders, hrecord]
      exact ((ih next.2).recording fun _ _ => congrArg _).reporting fun log log' => hreports.append

/-- A walk over a tree that lacks the component at some nodes. -/
theorem walk_edited {self self' : Instantiator} (hdecoders : self'.decoders = self.decoders)
    (hdepth : self'.maxDepth = self.maxDepth) (h : self.decoders.Rejects kind payload error)
    (hkind : kind ≠ PersistentId.kind) (prefabId key seed : String) {flags : List Bool}
    {root root' : Template}
    (hedited : Edited kind payload flags (preorder self.maxDepth key seed 1 0 root)
      (preorder self.maxDepth key seed 1 0 root')) (ids : IdAllocator) :
    (self.walk prefabId key ids 0 [⟨root, seed, 1⟩]).LosesReports
      (self'.walk prefabId key ids 0 [⟨root', seed, 1⟩])
      ((flagged flags (self.walk prefabId key ids 0 [⟨root, seed, 1⟩]).records).map fun record =>
        error.diagnostic.within record.persistentId) := by
  have hvisits : ∀ template : Template,
      preorderPending self.maxDepth key 0 [⟨template, seed, 1⟩] =
        preorder self.maxDepth key seed 1 0 template := fun template => List.append_nil _
  rw [walk_eq_stamp, walk_eq_stamp, hdepth, hvisits, hvisits]
  exact stamp_edited hdecoders hdepth h hkind prefabId key hedited ids

end Walks

/-- Reports are left out of an attempt at an instance, and nothing else. -/
structure InstanceOutcome.LosesReports (full less : InstanceOutcome) (removed : List Diagnostic) :
    Prop where
  result : less.result = full.result
  diagnostics : Loses full.diagnostics less.diagnostics removed
  ids : less.ids = full.ids
  drawn : less.drawn = full.drawn

namespace Instantiator

/-- The records that are built in an attempt at an instance, whether it comes to one or not. -/
def built (self : Instantiator) (supply : KeySupply) (request : InstanceRequest)
    (ids : IdAllocator) (drawn : Nat) : List Record :=
  match self.prefabs.get? request.prefabId with
  | none => []
  | some definition =>
    (self.walk definition.id (chosenKey supply request drawn).1 ids 0
      [{ node := (patchedRoot definition.root request).1
         parent := request.seedPersistentId
         level := 1 }]).records

/-- An instance that is made has the records that are built. -/
theorem built_of_result {self : Instantiator} {supply : KeySupply} {request : InstanceRequest}
    {ids : IdAllocator} {drawn : Nat} {records : List Record}
    (h : (self.instantiate supply request ids drawn).result = .ok records) :
    self.built supply request ids drawn = records := by
  unfold built
  cases hget : self.prefabs.get? request.prefabId with
  | none =>
    unfold instantiate at h
    rw [hget] at h
    cases h
  | some definition =>
    rw [instantiate_of_get? hget] at h
    dsimp only at h ⊢
    split_ifs at h
    exact Except.ok.inj h

/-- Those of them that are built from the node at an address. -/
def builtFrom (self : Instantiator) (supply : KeySupply) (request : InstanceRequest)
    (ids : IdAllocator) (drawn : Nat) (address : List Nat) : List Record :=
  match self.prefabs.get? request.prefabId with
  | none => []
  | some definition =>
    (((keptAddresses self.maxDepth 1 (patchedRoot definition.root request).1).zip
      (self.built supply request ids drawn)).filter fun (other, _) => other = address).map
        Prod.snd

theorem builtFrom_subset_built {self : Instantiator} {supply : KeySupply}
    {request : InstanceRequest} {ids : IdAllocator} {drawn : Nat} {address : List Nat} :
    self.builtFrom supply request ids drawn address ⊆ self.built supply request ids drawn := by
  unfold builtFrom
  cases self.prefabs.get? request.prefabId with
  | none => exact List.nil_subset _
  | some definition =>
    intro record hmem
    obtain ⟨pair, hpair, rfl⟩ := List.mem_map.1 hmem
    exact (List.of_mem_zip (List.mem_filter.1 hpair).1).2

end Instantiator

theorem flagged_addresses (addresses : List (List Nat)) (address : List Nat)
    (records : List Record) :
    flagged (addresses.map fun other => decide (other = address)) records =
      ((addresses.zip records).filter fun (other, _) => other = address).map Prod.snd := by
  rw [flagged, List.zip_map_left, List.filter_map, List.map_map]
  rfl

section Instances

variable {self self' : Instantiator} {kind : String} {payload : Json} {error : DecodeError}
  {request : InstanceRequest}

/-- Attempts at two versions of a prefab, of which one lacks the component at some nodes. -/
theorem instantiate_edited (hdecoders : self'.decoders = self.decoders)
    (hdepth : self'.maxDepth = self.maxDepth) (h : self.decoders.Rejects kind payload error)
    (hkind : kind ≠ PersistentId.kind) {definition definition' : Definition}
    (hget : self.prefabs.get? request.prefabId = some definition)
    (hget' : self'.prefabs.get? request.prefabId = some definition')
    (hid : definition'.id = definition.id)
    (hpatching : (Instantiator.patchedRoot definition'.root request).2 =
      (Instantiator.patchedRoot definition.root request).2)
    (supply : KeySupply) (ids : IdAllocator) (drawn : Nat) {flags : List Bool}
    (hedited : Edited kind payload flags
      (preorder self.maxDepth (Instantiator.chosenKey supply request drawn).1
        request.seedPersistentId 1 0 (Instantiator.patchedRoot definition.root request).1)
      (preorder self.maxDepth (Instantiator.chosenKey supply request drawn).1
        request.seedPersistentId 1 0 (Instantiator.patchedRoot definition'.root request).1)) :
    (self.instantiate supply request ids drawn).LosesReports
      (self'.instantiate supply request ids drawn)
      ((flagged flags (self.built supply request ids drawn)).map fun record =>
        error.diagnostic.within record.persistentId) := by
  have hwalk := walk_edited hdecoders hdepth h hkind definition.id
    (Instantiator.chosenKey supply request drawn).1 request.seedPersistentId hedited ids
  rw [instantiate_of_get? hget, instantiate_of_get? hget', hid, hpatching]
  unfold Instantiator.built
  rw [hget]
  refine ⟨?_, (Loses.refl _).append hwalk.diagnostics, hwalk.ids.symm, rfl⟩
  dsimp only
  rw [hwalk.complete, hwalk.records]

/-- Attempts at a prefab that is the same in both registries come to the same. -/
theorem instantiate_of_same (hdecoders : self'.decoders = self.decoders)
    (hdepth : self'.maxDepth = self.maxDepth) (h : self.decoders.Rejects kind payload error)
    (hkind : kind ≠ PersistentId.kind)
    (hget : self'.prefabs.get? request.prefabId = self.prefabs.get? request.prefabId)
    (supply : KeySupply) (ids : IdAllocator) (drawn : Nat) :
    (self.instantiate supply request ids drawn).LosesReports
      (self'.instantiate supply request ids drawn) [] := by
  cases hfound : self.prefabs.get? request.prefabId with
  | none =>
    rw [hfound] at hget
    unfold Instantiator.instantiate
    rw [hfound, hget]
    exact ⟨rfl, .refl _, rfl, rfl⟩
  | some definition =>
    rw [hfound] at hget
    have hedited := instantiate_edited hdecoders hdepth h hkind hfound hget rfl rfl supply ids
      drawn (.refl _)
    rwa [flagged_replicate] at hedited

/-- Without a component that is rejected, a prefab comes to the same instance. One report is missing
for each record that is built from the node. -/
theorem instantiate_withoutComponent (hdecoders : self'.decoders = self.decoders)
    (hdepth : self'.maxDepth = self.maxDepth) (h : self.decoders.Rejects kind payload error)
    (hkind : kind ≠ PersistentId.kind) (hmarker : kind ≠ PrefabInstance.kind)
    {definition : Definition} {address : List Nat} {node : Template}
    (hget : self.prefabs.get? request.prefabId = some definition)
    (hget' : self'.prefabs.get? request.prefabId =
      some (definition.withoutComponent kind address))
    (hpatch : request.overridePatch = none) (hnode : definition.root.at? address = some node)
    (hkeys : (Object.keys node.components).Nodup)
    (hfind : Object.find? node.components kind = some payload) (supply : KeySupply)
    (ids : IdAllocator) (drawn : Nat) :
    (self.instantiate supply request ids drawn).LosesReports
      (self'.instantiate supply request ids drawn)
      ((self.builtFrom supply request ids drawn address).map fun record =>
        error.diagnostic.within record.persistentId) := by
  have hpatched := Instantiator.patchedRoot_of_overridePatch_eq_none hpatch
  have hedited := edited_preorder self.maxDepth (Instantiator.chosenKey supply request drawn).1
    hmarker address hnode hkeys hfind request.seedPersistentId 1 0
  unfold Instantiator.builtFrom
  rw [hget]
  dsimp only
  rw [hpatched, ← flagged_addresses]
  refine instantiate_edited hdecoders hdepth h hkind hget hget' rfl ?_ supply ids drawn ?_
  · rw [hpatched, hpatched]
  · rw [hpatched, hpatched]
    exact hedited

end Instances

end SceneLoad
