import SceneLoad.Proofs.LostReports
import SceneLoad.Proofs.RuntimeIds

/-!
# How many ids an instance takes

An attempt at an instance finds out on the way how many ids it needs, and takes them one by one. It
needs one for each node that is not pruned : `Survives` says which these are, without a walk, and
`mem_keptAddresses` that the walk keeps them. What the allocator has left is
`IdAllocator.remaining`. A walk builds records as long as there are nodes and ids
(`length_records_stamp`), each with the next id (`issues_stamp`). So an instance is made exactly if
the ids suffice. It takes as many as it has records then, and otherwise it takes all that are left
(`instantiate_remaining`).
-/

namespace SceneLoad

open Visit

/-! ## Ids that are left -/

namespace IdAllocator

/-- The number of ids that can still be handed out. -/
def remaining (allocator : IdAllocator) : Nat :=
  match allocator.next with
  | none => 0
  | some next => UInt64.size - next.toNat

variable {before after : IdAllocator} {id : EntityId} {ids : List EntityId}

theorem remaining_of_allocate_eq_none (h : before.allocate = none) : before.remaining = 0 := by
  rw [remaining, next_eq_none_of_allocate h]

theorem remaining_of_allocate (h : before.allocate = some (id, after)) :
    before.remaining = after.remaining + 1 := by
  unfold allocate at h
  cases hnext : before.next with
  | none => simp [hnext] at h
  | some next =>
    simp only [hnext, Option.some.injEq, Prod.mk.injEq] at h
    obtain ⟨-, rfl⟩ := h
    rw [remaining, remaining, hnext]
    by_cases hlast : next = last
    · simp only [hlast, if_true]
      decide
    · have hbelow : (next + 1).toNat < UInt64.size := (next + 1).toNat_lt_size
      simp only [hlast, if_false, toNat_succ hlast] at hbelow ⊢
      omega

theorem isExhausted_iff (allocator : IdAllocator) :
    allocator.isExhausted = true ↔ allocator.remaining = 0 := by
  unfold isExhausted remaining
  cases allocator.next with
  | none => simp
  | some next => simpa using Nat.ne_of_gt (Nat.sub_pos_of_lt next.toNat_lt_size)

/-- An allocator hands out an `n`-th id, counted from 0, exactly if more than `n` are left. -/
theorem isSome_nth?_iff (allocator : IdAllocator) (n : Nat) :
    (allocator.nth? n).isSome = true ↔ n < allocator.remaining := by
  induction n generalizing allocator with
  | zero =>
    cases hids : allocator.allocate with
    | none => simp [nth?, hids, remaining_of_allocate_eq_none hids]
    | some next => simp [nth?, hids, remaining_of_allocate hids]
  | succ n ih =>
    cases hids : allocator.allocate with
    | none => simp [nth?, hids, remaining_of_allocate_eq_none hids]
    | some next => simp [nth?, hids, remaining_of_allocate hids, ih]

theorem Issues.remaining (h : Issues before ids after) :
    before.remaining = ids.length + after.remaining := by
  induction h with
  | nil allocator => rw [List.length_nil, Nat.zero_add]
  | cons hid _ ih =>
    rw [remaining_of_allocate hid, ih, List.length_cons]
    omega

end IdAllocator

open IdAllocator

/-! ## Nodes that are not pruned -/

/-- The node at an address of a tree is within the depth limit, and neither it nor a node above it
is marked as an instance. -/
structure Survives (maxDepth level : Nat) (root : Template) (address : List Nat) : Prop where
  /-- Each step goes one level down from the root's. -/
  depth : level + address.length ≤ maxDepth
  exists_node : (root.at? address).isSome = true
  unmarked : ∀ above, above <+: address → ∀ node, root.at? above = some node →
    Object.contains node.components PrefabInstance.kind = false

theorem survives_nil {maxDepth level : Nat} {root : Template} :
    Survives maxDepth level root [] ↔
      level ≤ maxDepth ∧ Object.contains root.components PrefabInstance.kind = false := by
  constructor
  · intro ⟨hdepth, _, hunmarked⟩
    exact ⟨hdepth, hunmarked [] (List.prefix_refl []) root rfl⟩
  · intro ⟨hdepth, hunmarked⟩
    refine ⟨hdepth, rfl, fun above habove node hnode => ?_⟩
    obtain rfl := List.prefix_nil.1 habove
    obtain rfl : root = node := Option.some.inj hnode
    exact hunmarked

/-- A node below survives if the root does, and the node within its subtree. -/
theorem survives_cons {maxDepth level index : Nat} {root : Template} {rest : List Nat} :
    Survives maxDepth level root (index :: rest) ↔
      Survives maxDepth level root [] ∧
        ∃ child, root.children[index]? = some child ∧
          Survives maxDepth (level + 1) child rest := by
  rw [survives_nil]
  constructor
  · intro ⟨hdepth, hnode, hunmarked⟩
    rw [List.length_cons] at hdepth
    refine ⟨⟨by omega, hunmarked [] List.nil_prefix root rfl⟩, ?_⟩
    rw [Template.at?, Option.isSome_bind] at hnode
    obtain ⟨child, hchild, hrest⟩ := (Option.any_eq_true _ _).1 hnode
    refine ⟨child, hchild, by omega, hrest, fun above habove node hat => ?_⟩
    refine hunmarked (index :: above) (List.cons_prefix_cons.2 ⟨rfl, habove⟩) node ?_
    rw [Template.at?, hchild, Option.bind_some, hat]
  · intro ⟨⟨_, hroot⟩, child, hchild, hdepth, hnode, hunmarked⟩
    refine ⟨?_, ?_, fun above habove node hat => ?_⟩
    · rw [List.length_cons]
      omega
    · rw [Template.at?, hchild, Option.bind_some, hnode]
    · rcases List.prefix_cons_iff.1 habove with rfl | ⟨above', rfl, habove'⟩
      · obtain rfl : root = node := Option.some.inj hat
        exact hroot
      · rw [Template.at?, hchild, Option.bind_some] at hat
        exact hunmarked above' habove' node hat

theorem cons_mem_keptAddressesAll {maxDepth level : Nat} {rest : List Nat} :
    ∀ {templates : List Template} {index position : Nat},
      (index + position) :: rest ∈ keptAddressesAll maxDepth level index templates ↔
        ∃ child, templates[position]? = some child ∧ rest ∈ keptAddresses maxDepth level child
  | [], _, _ => by simp [keptAddressesAll]
  | first :: others, index, 0 => by
    have hothers : (index + 0) :: rest ∉ keptAddressesAll maxDepth level (index + 1) others := by
      intro hmem
      have hlater := le_of_mem_keptAddressesAll hmem
      omega
    rw [keptAddressesAll, List.mem_append, or_iff_left hothers]
    simp
  | first :: others, index, position + 1 => by
    have hfirst : (index + (position + 1)) :: rest ∉
        (keptAddresses maxDepth level first).map (index :: ·) := by
      intro hmem
      obtain ⟨address, -, heq⟩ := List.mem_map.1 hmem
      have hindex := (List.cons.inj heq).1
      omega
    have ih := @cons_mem_keptAddressesAll maxDepth level rest others (index + 1) position
    rw [Nat.add_assoc, Nat.add_comm 1] at ih
    rw [keptAddressesAll, List.mem_append, or_iff_right hfirst, ih, List.getElem?_cons_succ]

/-- The kept addresses are those of the nodes that are not pruned. -/
theorem mem_keptAddresses {maxDepth : Nat} : ∀ {address : List Nat} {level : Nat}
    {template : Template},
    address ∈ keptAddresses maxDepth level template ↔ Survives maxDepth level template address
  | [], level, template => by
    rw [keptAddresses_eq, survives_nil]
    split_ifs with hdeep hmarked
    · simp [Nat.not_le.2 hdeep]
    · simp [hmarked]
    · simp [Nat.le_of_not_lt hdeep, hmarked]
  | index :: rest, level, template => by
    have hchild := @cons_mem_keptAddressesAll maxDepth (level + 1) rest template.children 0 index
    simp only [Nat.zero_add, mem_keptAddresses] at hchild
    rw [keptAddresses_eq, survives_cons, survives_nil]
    split_ifs with hdeep hmarked
    · simp [Nat.not_le.2 hdeep]
    · simp [hmarked]
    · simp [Nat.le_of_not_lt hdeep, hmarked, hchild]

mutual

theorem nodup_keptAddresses (maxDepth level : Nat) :
    ∀ template : Template, (keptAddresses maxDepth level template).Nodup
  | ⟨name, tags, components, children⟩ => by
    rw [keptAddresses]
    split_ifs
    · exact List.nodup_nil
    · exact List.nodup_nil
    · exact List.nodup_cons.2 ⟨nil_notMem_keptAddressesAll,
        nodup_keptAddressesAll maxDepth (level + 1) 0 children⟩

theorem nodup_keptAddressesAll (maxDepth level index : Nat) :
    ∀ templates : List Template, (keptAddressesAll maxDepth level index templates).Nodup
  | [] => by simp [keptAddressesAll]
  | child :: rest => by
    rw [keptAddressesAll]
    refine ((nodup_keptAddresses maxDepth level child).map List.cons_injective).append
      (nodup_keptAddressesAll maxDepth level (index + 1) rest) fun address hfirst hlater => ?_
    obtain ⟨inner, -, rfl⟩ := List.mem_map.1 hfirst
    have hle := le_of_mem_keptAddressesAll hlater
    omega

end

/-! ## Walks -/

/-- A walk builds records as long as there are nodes and ids, and is complete if it is not the ids
that end first. -/
theorem length_records_stamp (self : Instantiator) (prefabId key : String) :
    ∀ (visits : List Visit) (ids : IdAllocator),
      (stamp self prefabId key ids visits).records.length =
          min (keptNodes visits).length ids.remaining ∧
        ((stamp self prefabId key ids visits).complete = true ↔
          (keptNodes visits).length ≤ ids.remaining)
  | [], ids => by simp [stamp]
  | .tooDeep _ :: rest, ids => length_records_stamp self prefabId key rest ids
  | .nested _ :: rest, ids => length_records_stamp self prefabId key rest ids
  | .kept item number :: rest, ids => by
    rw [stamp, keptNodes_kept, List.length_cons]
    cases hids : ids.allocate with
    | none => simp [remaining_of_allocate_eq_none hids]
    | some next =>
      obtain ⟨hlength, hcomplete⟩ := length_records_stamp self prefabId key rest next.2
      rw [remaining_of_allocate hids, Nat.add_min_add_right, Nat.add_le_add_iff_right,
        ← hlength, ← hcomplete]
      exact ⟨rfl, Iff.rfl⟩

/-- A walk from a root : its ids, its records and whether it is complete. -/
theorem walk_remaining (self : Instantiator) (prefabId key seed : String) (ids : IdAllocator)
    (root : Template) {walk : Walk}
    (hwalk : self.walk prefabId key ids 0 [{ node := root, parent := seed, level := 1 }] = walk) :
    Issues ids (walk.records.map Record.runtimeId) walk.ids ∧
      walk.records.length = min (keptAddresses self.maxDepth 1 root).length ids.remaining ∧
      (walk.complete = true ↔ (keptAddresses self.maxDepth 1 root).length ≤ ids.remaining) := by
  subst hwalk
  have hvisits : preorderPending self.maxDepth key 0 [{ node := root, parent := seed, level := 1 }]
      = preorder self.maxDepth key seed 1 0 root := List.append_nil _
  rw [walk_eq_stamp, hvisits, length_keptAddresses self.maxDepth key seed 1 0]
  exact ⟨issues_stamp self prefabId key _ ids,
    length_records_stamp self prefabId key _ ids⟩

/-! ## Instances -/

/-- A prefab that is not registered costs nothing. Of one that is, an instance is made exactly if
there are ids for all the nodes that are not pruned. It takes an id and makes a record for each of
them. If there are too few ids, those that are left are taken, and none is handed out ever after. -/
theorem instantiate_remaining (self : Instantiator) (supply : KeySupply)
    (request : InstanceRequest) (ids : IdAllocator) (drawn : Nat) {outcome : InstanceOutcome}
    (houtcome : self.instantiate supply request ids drawn = outcome) :
    (∀ n, (ids.nth? n).isSome = true ↔ n < ids.remaining) ∧
      (self.prefabs.get? request.prefabId = none →
        outcome =
          { result := .error (.prefabNotFound request.prefabId request.seedPersistentId)
            diagnostics := []
            ids
            drawn }) ∧
      ∀ definition, self.prefabs.get? request.prefabId = some definition →
        ∃ survivors : List (List Nat), survivors.Nodup ∧
          (∀ address, address ∈ survivors ↔ Survives self.maxDepth 1
            (Instantiator.patchedRoot definition.root request).1 address) ∧
          ((∃ records, outcome.result = .ok records) ↔ survivors.length ≤ ids.remaining) ∧
          (∀ records, outcome.result = .ok records → records.length = survivors.length ∧
            Issues ids (records.map Record.runtimeId) outcome.ids) ∧
          (ids.remaining < survivors.length →
            outcome.result = .error (.idsExhausted definition.id request.seedPersistentId) ∧
              (∃ spent, spent.length = ids.remaining ∧ Issues ids spent outcome.ids) ∧
              outcome.ids.isExhausted = true ∧ ∀ n, outcome.ids.nth? n = none) := by
  subst houtcome
  refine ⟨isSome_nth?_iff ids, fun hget => ?_, fun definition hget => ?_⟩
  · unfold Instantiator.instantiate
    rw [hget]
  · rw [instantiate_of_get? hget]
    dsimp only
    obtain ⟨hissues, hlength, hcomplete⟩ := walk_remaining self definition.id
      (Instantiator.chosenKey supply request drawn).1 request.seedPersistentId ids
      (Instantiator.patchedRoot definition.root request).1 rfl
    refine ⟨_, nodup_keptAddresses _ 1 _, fun address => mem_keptAddresses, ?_, ?_, fun hfew => ?_⟩
    · rw [← hcomplete]
      split_ifs with hwalk
      · exact iff_of_true ⟨_, rfl⟩ hwalk
      · exact iff_of_false (by simp) hwalk
    · intro records hok
      split_ifs at hok with hwalk
      obtain rfl := Except.ok.inj hok
      exact ⟨hlength.trans (Nat.min_eq_left (hcomplete.1 hwalk)), hissues⟩
    · have hcut := mt hcomplete.1 (Nat.not_le.2 hfew)
      rw [Nat.min_eq_right (Nat.le_of_lt hfew)] at hlength
      -- The ids that were handed out are all there were.
      have hleft := hissues.remaining
      rw [List.length_map, hlength, Nat.left_eq_add] at hleft
      refine ⟨if_neg hcut, ⟨_, by rw [List.length_map, hlength], hissues⟩, ?_, fun n => ?_⟩
      · exact (isExhausted_iff _).2 hleft
      · rw [← Option.not_isSome_iff_eq_none, isSome_nth?_iff, hleft]
        exact Nat.not_lt_zero n

/-- Three nodes of the lamp are not pruned. Three ids suffice for them, and two are lost. -/
theorem instantiate_remaining_lamp :
    (∃ records,
      (lamp.instantiate toString deskLamp (.startingAt (last - 2)) 0).result = .ok records ∧
        records.length = 3) ∧
      (lamp.instantiate toString deskLamp (.startingAt (last - 1)) 0).result =
        .error (.idsExhausted "lamp" "desk") ∧
      ∀ n, (lamp.instantiate toString deskLamp (.startingAt (last - 1)) 0).ids.nth? n = none := by
  have hget : ∃ definition, lamp.prefabs.get? deskLamp.prefabId = some definition ∧
      definition.id = "lamp" ∧ (keptAddresses lamp.maxDepth 1
        (Instantiator.patchedRoot definition.root deskLamp).1).length = 3 := ⟨_, rfl, rfl, rfl⟩
  obtain ⟨definition, hget, hid, hthree⟩ := hget
  have hcount : ∀ survivors : List (List Nat), survivors.Nodup →
      (∀ address, address ∈ survivors ↔ Survives lamp.maxDepth 1
        (Instantiator.patchedRoot definition.root deskLamp).1 address) →
      survivors.length = 3 := by
    intro survivors hnodup hmem
    rw [← hthree]
    refine List.Perm.length_eq ((List.perm_ext_iff_of_nodup hnodup (nodup_keptAddresses ..)).2 ?_)
    exact fun address => (hmem address).trans mem_keptAddresses.symm
  obtain ⟨-, -, hthreeIds⟩ := instantiate_remaining lamp toString deskLamp
    (.startingAt (last - 2)) 0 rfl
  obtain ⟨-, -, htwoIds⟩ := instantiate_remaining lamp toString deskLamp
    (.startingAt (last - 1)) 0 rfl
  obtain ⟨survivors, hnodup, hmem, hmade, hrecords, -⟩ := hthreeIds definition hget
  obtain ⟨survivors', hnodup', hmem', -, -, hfew⟩ := htwoIds definition hget
  rw [hcount survivors hnodup hmem] at hmade hrecords
  rw [hcount survivors' hnodup' hmem', hid] at hfew
  obtain ⟨records, hok⟩ := hmade.2 (by decide)
  obtain ⟨hresult, -, -, hnone⟩ := hfew (by decide)
  exact ⟨⟨records, hok, (hrecords records hok).1⟩, hresult, hnone⟩

end SceneLoad
