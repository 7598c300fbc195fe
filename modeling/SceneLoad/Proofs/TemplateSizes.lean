import Mathlib.Algebra.GroupWithZero.Nat
import SceneLoad.Proofs.DecodedRecords
import SceneLoad.Proofs.Seeds

/-!
# How large an instance can be

The nodes and the levels of a tree are counted by loops over a stack of pending trees, the last
child first. What such a loop finds in two stacks, one on top of the other, it finds in each of them
(`countPending_append`, `deepestPending_append`), so the order does not matter, and both counts are
recursive on the tree (`nodeCount_eq`, `levels_eq`).

An instance has at most one record for each node. It has all of them exactly if the tree ends above
the depth limit and none of its nodes is marked as an instance (`Fits`), and this again is recursive
on the tree (`fits_iff`), as the pre-order walk is. Of a tree that fits, every node is kept under
any limit (`kept_of_fits`, `preorder_of_fits`).
-/

namespace SceneLoad

namespace Template

/-! ## Counts -/

theorem countPending_cons (template : Template) (pending : List Template) :
    countPending (template :: pending) =
      countPending (template.children.reverse ++ pending) + 1 := by
  rw [countPending]

theorem countPending_append (xs ys : List Template) :
    countPending (xs ++ ys) = countPending xs + countPending ys := by
  -- The induction is the loop's own : `ys` stays below whatever is put on the stack.
  fun_induction countPending xs with
  | case1 => rw [List.nil_append, Nat.zero_add]
  | case2 template pending ih =>
    rw [List.unattach_reverse, List.unattach_attach] at ih
    rw [List.cons_append, countPending_cons, ← List.append_assoc, ih, Nat.add_right_comm]

theorem countPending_eq_sum (pending : List Template) :
    countPending pending = (pending.map nodeCount).sum := by
  induction pending with
  | nil => rw [countPending, List.map_nil, List.sum_nil]
  | cons template pending ih =>
    have happend := countPending_append [template] pending
    rw [List.singleton_append, ih] at happend
    rw [happend, List.map_cons, List.sum_cons]
    rfl

/-- The nodes of a tree are its root and those of its subtrees. -/
theorem nodeCount_eq (template : Template) :
    template.nodeCount = 1 + (template.children.map nodeCount).sum := by
  rw [nodeCount, countPending_cons, List.append_nil, countPending_eq_sum, List.map_reverse,
    List.sum_reverse, Nat.add_comm]

theorem deepestPending_cons (template : Template) (level : Nat)
    (pending : List (Template × Nat)) :
    deepestPending ((template, level) :: pending) =
      max level (deepestPending (atLevel (level + 1) template.children.reverse ++ pending)) := by
  rw [deepestPending]

theorem deepestPending_append (xs ys : List (Template × Nat)) :
    deepestPending (xs ++ ys) = max (deepestPending xs) (deepestPending ys) := by
  fun_induction deepestPending xs with
  | case1 => rw [List.nil_append, Nat.zero_max]
  | case2 template level pending ih =>
    rw [List.unattach_reverse, List.unattach_attach] at ih
    rw [List.cons_append, deepestPending_cons, ← List.append_assoc, ih, Nat.max_assoc]

/-- Pending trees one level further down. -/
def raised (pending : List (Template × Nat)) : List (Template × Nat) :=
  pending.map fun (template, level) => (template, level + 1)

theorem raised_atLevel_append (level : Nat) (templates : List Template)
    (pending : List (Template × Nat)) :
    raised (atLevel level templates ++ pending) =
      atLevel (level + 1) templates ++ raised pending := by
  simp [raised, atLevel]

theorem deepestPending_raised (pending : List (Template × Nat)) (hpending : pending ≠ []) :
    deepestPending (raised pending) = deepestPending pending + 1 := by
  fun_induction deepestPending pending with
  | case1 => exact absurd rfl hpending
  | case2 template level pending ih =>
    rw [List.unattach_reverse, List.unattach_attach] at ih
    have hraised : raised ((template, level) :: pending) =
      (template, level + 1) :: raised pending := rfl
    rw [hraised, deepestPending_cons, ← raised_atLevel_append]
    by_cases hnone : atLevel (level + 1) template.children.reverse ++ pending = []
    · rw [hnone]
      simp [raised, deepestPending]
    · rw [ih hnone, Nat.add_max_add_right]

/-- Levels under a root are counted from its own. -/
theorem deepestPending_atLevel_two (templates : List Template) :
    max 1 (deepestPending (atLevel 2 templates.reverse)) =
      1 + (templates.map levels).foldr max 0 := by
  induction templates with
  | nil => simp [atLevel, deepestPending]
  | cons template rest ih =>
    have hfirst : deepestPending (atLevel 2 [template]) = template.levels + 1 :=
      deepestPending_raised [(template, 1)] (List.cons_ne_nil _ _)
    have hsplit : atLevel 2 (template :: rest).reverse =
        atLevel 2 rest.reverse ++ atLevel 2 [template] := by
      simp [atLevel]
    rw [hsplit, deepestPending_append, hfirst, List.map_cons, List.foldr_cons, ← Nat.max_assoc, ih]
    omega

/-- The levels of a tree are that of its root and those of its deepest subtree. -/
theorem levels_eq (template : Template) :
    template.levels = 1 + (template.children.map levels).foldr max 0 := by
  rw [levels, deepestPending_cons, List.append_nil, deepestPending_atLevel_two]

/-! ## Trees that fit -/

/-- No node is marked as an instance. -/
def Unmarked (template : Template) : Prop :=
  ∀ address node, template.at? address = some node →
    Object.contains node.components PrefabInstance.kind = false

theorem unmarked_iff {template : Template} :
    template.Unmarked ↔ Object.contains template.components PrefabInstance.kind = false ∧
      ∀ child ∈ template.children, child.Unmarked := by
  constructor
  · intro h
    refine ⟨h [] template rfl, fun child hchild address node hnode => ?_⟩
    obtain ⟨index, hindex⟩ := List.getElem?_of_mem hchild
    exact h (index :: address) node (by rw [at?, hindex, Option.bind_some, hnode])
  · rintro ⟨hroot, hchildren⟩ address node hnode
    cases address with
    | nil => exact Option.some.inj hnode ▸ hroot
    | cons index address =>
      obtain ⟨child, hchild, hnode⟩ := Option.bind_eq_some_iff.1 hnode
      exact hchildren child (List.mem_of_getElem? hchild) address node hnode

theorem foldr_max_le_iff {bound : Nat} : ∀ {numbers : List Nat},
    numbers.foldr max 0 ≤ bound ↔ ∀ number ∈ numbers, number ≤ bound
  | [] => by simp
  | first :: rest => by rw [List.foldr_cons, Nat.max_le, foldr_max_le_iff, List.forall_mem_cons]

/-- The tree, with its root at a level, has no level below the limit. -/
def EndsBy (maxDepth level : Nat) (template : Template) : Prop :=
  level + template.levels ≤ maxDepth + 1

theorem endsBy_iff {maxDepth level : Nat} {template : Template} :
    template.EndsBy maxDepth level ↔
      level ≤ maxDepth ∧ ∀ child ∈ template.children, child.EndsBy maxDepth (level + 1) := by
  have hchildren : (template.children.map levels).foldr max 0 ≤ maxDepth - level ↔
      ∀ child ∈ template.children, child.levels ≤ maxDepth - level := by
    rw [foldr_max_le_iff, List.forall_mem_map]
  unfold EndsBy
  rw [levels_eq]
  constructor
  · intro h
    refine ⟨by omega, fun child hchild => ?_⟩
    have hlevels := hchildren.1 (by omega) child hchild
    omega
  · rintro ⟨hlevel, h⟩
    have hlevels := hchildren.2 fun child hchild => by
      have hchild := h child hchild
      omega
    omega

theorem endsBy_one_iff {maxDepth : Nat} {template : Template} :
    template.EndsBy maxDepth 1 ↔ template.levels ≤ maxDepth := by
  rw [EndsBy, Nat.add_comm 1, Nat.add_le_add_iff_right]

/-- Nothing of the tree, with its root at a level, is left out. -/
structure Fits (maxDepth level : Nat) (template : Template) : Prop where
  ends : template.EndsBy maxDepth level
  unmarked : template.Unmarked

/-- A tree fits if its root does, and its subtrees one level further down. -/
theorem fits_iff {maxDepth level : Nat} {template : Template} :
    template.Fits maxDepth level ↔
      level ≤ maxDepth ∧ Object.contains template.components PrefabInstance.kind = false ∧
        ∀ child ∈ template.children, child.Fits maxDepth (level + 1) := by
  constructor
  · rintro ⟨hends, hunmarked⟩
    obtain ⟨hlevel, hbelow⟩ := endsBy_iff.1 hends
    obtain ⟨hroot, hunmarked⟩ := unmarked_iff.1 hunmarked
    exact ⟨hlevel, hroot, fun child hchild => ⟨hbelow child hchild, hunmarked child hchild⟩⟩
  · rintro ⟨hlevel, hroot, hchildren⟩
    exact ⟨endsBy_iff.2 ⟨hlevel, fun child hchild => (hchildren child hchild).ends⟩,
      unmarked_iff.2 ⟨hroot, fun child hchild => (hchildren child hchild).unmarked⟩⟩

end Template

open Diagnostic Template Visit

/-! ## Walks of trees that fit -/

mutual

/-- A walk keeps one node for each of the tree at most, and all of them exactly if the tree fits. -/
theorem length_keptNodes_preorder (maxDepth : Nat) (key parent : String) (level number : Nat) :
    ∀ template : Template,
      (keptNodes (preorder maxDepth key parent level number template)).length ≤
          template.nodeCount ∧
        ((keptNodes (preorder maxDepth key parent level number template)).length =
          template.nodeCount ↔ template.Fits maxDepth level)
  | ⟨name, tags, components, children⟩ => by
    rw [preorder, nodeCount_eq, fits_iff]
    split_ifs with hdeep hmarked
    · rw [keptNodes_tooDeep, keptNodes_nil, List.length_nil]
      exact ⟨Nat.zero_le _, iff_of_false (by omega) fun h => Nat.not_le.2 hdeep h.1⟩
    · rw [keptNodes_nested, keptNodes_nil, List.length_nil]
      exact ⟨Nat.zero_le _, iff_of_false (by omega) fun h => Bool.eq_false_iff.1 h.2.1 hmarked⟩
    · obtain ⟨hle, heq⟩ :=
        length_keptNodes_preorderAll maxDepth key (nodeId key number) (level + 1) (number + 1)
          children
      rw [keptNodes_kept, List.length_cons, Nat.add_comm 1, Nat.add_le_add_iff_right,
        Nat.add_right_cancel_iff, heq]
      exact ⟨hle, fun h => ⟨Nat.le_of_not_lt hdeep, Bool.eq_false_iff.2 hmarked, h⟩,
        fun h => h.2.2⟩

theorem length_keptNodes_preorderAll (maxDepth : Nat) (key parent : String)
    (level number : Nat) : ∀ templates : List Template,
      (keptNodes (preorderAll maxDepth key parent level number templates)).length ≤
          (templates.map nodeCount).sum ∧
        ((keptNodes (preorderAll maxDepth key parent level number templates)).length =
          (templates.map nodeCount).sum ↔ ∀ template ∈ templates, template.Fits maxDepth level)
  | [] => by simp [preorderAll]
  | template :: rest => by
    obtain ⟨hle, heq⟩ := length_keptNodes_preorder maxDepth key parent level number template
    obtain ⟨hleRest, heqRest⟩ := length_keptNodes_preorderAll maxDepth key parent level
      (number + (keptNodes (preorder maxDepth key parent level number template)).length) rest
    rw [preorderAll, keptNodes_append, List.length_append, List.map_cons, List.sum_cons,
      List.forall_mem_cons, ← heq, ← heqRest]
    exact ⟨Nat.add_le_add hle hleRest, by omega⟩

end

mutual

/-- Where no node is too deep, the limit does not matter. -/
theorem preorder_of_endsBy {maxDepth maxDepth' : Nat} (key parent : String) {level : Nat}
    (number : Nat) : ∀ {template : Template}, template.EndsBy maxDepth level →
      template.EndsBy maxDepth' level →
        preorder maxDepth' key parent level number template =
            preorder maxDepth key parent level number template ∧
          ∀ item, Visit.tooDeep item ∉ preorder maxDepth key parent level number template
  | ⟨name, tags, components, children⟩, h, h' => by
    obtain ⟨hlevel, hchildren⟩ := endsBy_iff.1 h
    obtain ⟨hlevel', hchildren'⟩ := endsBy_iff.1 h'
    rw [preorder, preorder, if_neg (Nat.not_lt.2 hlevel), if_neg (Nat.not_lt.2 hlevel')]
    split_ifs
    · exact ⟨rfl, by simp⟩
    · obtain ⟨heq, hnone⟩ := preorderAll_of_endsBy key (nodeId key number) (number + 1)
        hchildren hchildren'
      exact ⟨congrArg _ heq, by simpa using hnone⟩

theorem preorderAll_of_endsBy {maxDepth maxDepth' : Nat} (key parent : String) {level : Nat}
    (number : Nat) : ∀ {templates : List Template},
      (∀ template ∈ templates, template.EndsBy maxDepth level) →
        (∀ template ∈ templates, template.EndsBy maxDepth' level) →
          preorderAll maxDepth' key parent level number templates =
              preorderAll maxDepth key parent level number templates ∧
            ∀ item, Visit.tooDeep item ∉ preorderAll maxDepth key parent level number templates
  | [], _, _ => ⟨rfl, by simp [preorderAll]⟩
  | template :: rest, h, h' => by
    obtain ⟨htemplate, hrest⟩ := List.forall_mem_cons.1 h
    obtain ⟨htemplate', hrest'⟩ := List.forall_mem_cons.1 h'
    obtain ⟨heq, hnone⟩ := preorder_of_endsBy key parent number htemplate htemplate'
    obtain ⟨heqRest, hnoneRest⟩ := preorderAll_of_endsBy key parent
      (number + (keptNodes (preorder maxDepth key parent level number template)).length)
        hrest hrest'
    rw [preorderAll, preorderAll, heq, heqRest]
    exact ⟨rfl, fun item hmem => (List.mem_append.1 hmem).elim (hnone item) (hnoneRest item)⟩

end

mutual

theorem nested_notMem_preorder {maxDepth : Nat} (key parent : String) {level : Nat}
    (number : Nat) (item : PendingNode) : ∀ {template : Template}, template.Unmarked →
      Visit.nested item ∉ preorder maxDepth key parent level number template
  | ⟨name, tags, components, children⟩, h => by
    obtain ⟨hroot, hchildren⟩ := unmarked_iff.1 h
    rw [preorder, if_neg (Bool.eq_false_iff.1 hroot)]
    split_ifs
    · simp
    · simpa using nested_notMem_preorderAll key (nodeId key number) (number + 1) item hchildren

theorem nested_notMem_preorderAll {maxDepth : Nat} (key parent : String) {level : Nat}
    (number : Nat) (item : PendingNode) : ∀ {templates : List Template},
      (∀ template ∈ templates, template.Unmarked) →
        Visit.nested item ∉ preorderAll maxDepth key parent level number templates
  | [], _ => by simp [preorderAll]
  | template :: rest, h => by
    obtain ⟨htemplate, hrest⟩ := List.forall_mem_cons.1 h
    rw [preorderAll]
    exact fun hmem => (List.mem_append.1 hmem).elim
      (nested_notMem_preorder key parent number item htemplate)
      (nested_notMem_preorderAll key parent _ item hrest)

end

/-! ## Instances -/

/-- Only what is said of nodes that are too deep depends on the limit. -/
theorem stamp_withMaxDepth (self : Instantiator) (maxDepth : Nat) (prefabId key : String) :
    ∀ (visits : List Visit) (ids : IdAllocator), (∀ item, Visit.tooDeep item ∉ visits) →
      stamp { self with maxDepth } prefabId key ids visits = stamp self prefabId key ids visits
  | [], _, _ => rfl
  | .tooDeep item :: _, _, h => absurd List.mem_cons_self (h item)
  | .nested item :: rest, ids, h =>
    congrArg (Walk.reporting [_]) <|
      stamp_withMaxDepth self maxDepth prefabId key rest ids fun other hmem =>
        h other (List.mem_cons_of_mem _ hmem)
  | .kept item number :: rest, ids, h => by
    have hrest : ∀ other, Visit.tooDeep other ∉ rest := fun other hmem =>
      h other (List.mem_cons_of_mem _ hmem)
    rw [stamp, stamp]
    cases ids.allocate with
    | none => rfl
    | some next => simp only [stamp_withMaxDepth self maxDepth prefabId key rest next.2 hrest]

section Unpatched

variable {self : Instantiator} {request : InstanceRequest} {definition : Definition}
  (hget : self.prefabs.get? request.prefabId = some definition)
  (hpatch : request.overridePatch = none)

include hget hpatch

/-- An instance has a record for each node that a walk keeps. -/
theorem length_records_of_instantiate {supply : KeySupply} {ids : IdAllocator} {drawn : Nat}
    {records : List Record}
    (hok : (self.instantiate supply request ids drawn).result = .ok records) :
    records.length = (keptNodes (preorder self.maxDepth
      (Instantiator.chosenKey supply request drawn).1 request.seedPersistentId 1 0
        definition.root)).length := by
  obtain ⟨definition', root, patching, log, hget', hroot, -, -, hfollows⟩ :=
    instantiate_eq_ok self supply request ids drawn hok
  obtain rfl := Option.some.inj (hget'.symm.trans hget)
  rw [Instantiator.patchedRoot_of_overridePatch_eq_none hpatch] at hroot
  obtain ⟨rfl, -⟩ := Prod.mk.inj hroot
  exact hfollows.length_records

/-- An attempt at a tree that fits reports nothing itself. -/
theorem diagnostics_of_fits (hfits : definition.root.Fits self.maxDepth 1) (supply : KeySupply)
    (ids : IdAllocator) (drawn : Nat) :
    (self.instantiate supply request ids drawn).diagnostics =
      self.componentReports supply request ids drawn := by
  rw [instantiate_of_get? hget, Instantiator.patchedRoot_of_overridePatch_eq_none hpatch,
    Instantiator.componentReports, Instantiator.visits, hget]
  simp only [walk_eq_stamp, diagnostics_stamp_walked, preorderPending, List.append_nil,
    List.nil_append, Instantiator.patchedRoot_of_overridePatch_eq_none hpatch]
  refine List.flatMap_congr fun visit hvisit => ?_
  have hmem := (walked_prefix_self _ _).sublist.subset hvisit
  cases visit with
  | kept item number => rfl
  | tooDeep item => exact absurd hmem ((preorder_of_endsBy _ _ 0 hfits.ends hfits.ends).2 item)
  | nested item => exact absurd hmem (nested_notMem_preorder _ _ 0 item hfits.unmarked)

/-- An attempt at a tree that ends above two limits is the same under both. -/
theorem instantiate_withMaxDepth {maxDepth : Nat}
    (hends : definition.root.EndsBy self.maxDepth 1) (hends' : definition.root.EndsBy maxDepth 1)
    (supply : KeySupply) (ids : IdAllocator) (drawn : Nat) :
    Instantiator.instantiate { self with maxDepth } supply request ids drawn =
      self.instantiate supply request ids drawn := by
  have hget' : ({ self with maxDepth } : Instantiator).prefabs.get? request.prefabId =
      some definition := hget
  obtain ⟨heq, hnone⟩ := preorder_of_endsBy (Instantiator.chosenKey supply request drawn).1
    request.seedPersistentId 0 hends hends'
  rw [instantiate_of_get? hget, instantiate_of_get? hget',
    Instantiator.patchedRoot_of_overridePatch_eq_none hpatch]
  simp only [walk_eq_stamp, preorderPending, List.append_nil, heq,
    stamp_withMaxDepth self maxDepth definition.id _ _ ids hnone]

end Unpatched

/-- Nodes and levels of a tree, and what they mean for an instance of a prefab without a patch. It
has no more records than the template has nodes. It has as many, and nothing is reported but what
decoders say of components, exactly if the template ends above the depth limit and none of its nodes
is marked as an instance; so if decoders do not say it themselves, nothing is reported of subtrees
that are too deep or marked. All limits that the template ends above have the same outcome. -/
theorem instantiate_measured (self : Instantiator) (supply : KeySupply) (request : InstanceRequest)
    (ids : IdAllocator) (drawn : Nat) {outcome : InstanceOutcome}
    (houtcome : self.instantiate supply request ids drawn = outcome) :
    (∀ template : Template,
      template.nodeCount = 1 + (template.children.map nodeCount).sum ∧
        template.levels = 1 + (template.children.map levels).foldr max 0) ∧
      ∀ definition, self.prefabs.get? request.prefabId = some definition →
        request.overridePatch = none →
          (∀ records, outcome.result = .ok records →
            records.length ≤ definition.root.nodeCount ∧
              (records.length = definition.root.nodeCount ∧
                  outcome.diagnostics = self.componentReports supply request ids drawn ↔
                definition.root.levels ≤ self.maxDepth ∧ definition.root.Unmarked) ∧
              (self.decoders.Silent .depthExceeded → self.decoders.Silent .nestedPrefabInstance →
                (records.length = definition.root.nodeCount ∧
                    (∀ diagnostic ∈ outcome.diagnostics, diagnostic.code ≠ .depthExceeded ∧
                      diagnostic.code ≠ .nestedPrefabInstance) ↔
                  definition.root.levels ≤ self.maxDepth ∧ definition.root.Unmarked))) ∧
            ∀ maxDepth maxDepth', definition.root.levels ≤ maxDepth →
              definition.root.levels ≤ maxDepth' →
                Instantiator.instantiate { self with maxDepth } supply request ids drawn =
                  Instantiator.instantiate { self with maxDepth := maxDepth' } supply request ids
                    drawn := by
  subst houtcome
  refine ⟨fun template => ⟨nodeCount_eq template, levels_eq template⟩, ?_⟩
  intro definition hget hpatch
  refine ⟨fun records hok => ?_, fun maxDepth maxDepth' hends hends' => ?_⟩
  · obtain ⟨hle, hcount⟩ := length_keptNodes_preorder self.maxDepth
      (Instantiator.chosenKey supply request drawn).1 request.seedPersistentId 1 0 definition.root
    rw [← length_records_of_instantiate hget hpatch hok] at hle hcount
    have hfits : definition.root.levels ≤ self.maxDepth ∧ definition.root.Unmarked ↔
        records.length = definition.root.nodeCount := by
      rw [hcount, ← endsBy_one_iff]
      exact ⟨fun h => ⟨h.1, h.2⟩, fun h => ⟨h.ends, h.unmarked⟩⟩
    have hlog := fun h => diagnostics_of_fits hget hpatch (hcount.1 h) supply ids drawn
    rw [hfits]
    refine ⟨hle, and_iff_left_of_imp hlog, fun hdeep hnested => and_iff_left_of_imp fun h => ?_⟩
    have hdeep := ofCode_eq_nil_iff.1 (hdeep.ofCode_instance (by decide) supply request ids drawn)
    have hnested :=
      ofCode_eq_nil_iff.1 (hnested.ofCode_instance (by decide) supply request ids drawn)
    rw [hlog h]
    exact fun diagnostic hmem => ⟨hdeep diagnostic hmem, hnested diagnostic hmem⟩
  · exact @instantiate_withMaxDepth { self with maxDepth := maxDepth' } request definition hget
      hpatch maxDepth (endsBy_one_iff.2 hends') (endsBy_one_iff.2 hends) supply ids drawn

/-- A torch with a spring in its case. -/
def torch : Template where
  name := "torch"
  children := [.named "bulb", { name := "case", children := [.named "spring"] }]

/-- Torches of at most three levels. -/
def torches : Instantiator where
  prefabs := ⟨[("torch", .ofRoot "torch" torch)]⟩
  decoders := .standard
  maxDepth := 3

/-- The shelf's torch, under the key `a`. -/
def shelfTorch : InstanceRequest where
  prefabId := "torch"
  seedPersistentId := "shelf"
  instanceUuid := some "a"

theorem unmarked_torch : torch.Unmarked := by
  have hleaf : ∀ name, (named name).Unmarked := fun name =>
    unmarked_iff.2 ⟨rfl, fun child hchild => by cases hchild⟩
  have hcase : Unmarked { name := "case", children := [.named "spring"] } :=
    unmarked_iff.2 ⟨rfl, List.forall_mem_singleton.2 (hleaf "spring")⟩
  exact unmarked_iff.2
    ⟨rfl, List.forall_mem_cons.2 ⟨hleaf "bulb", List.forall_mem_singleton.2 hcase⟩⟩

/-- A record of the shelf's torch. -/
def torchRecord (id : UInt64) (number : Nat) (name parent : String) : Record where
  runtimeId := ⟨id⟩
  persistentId := nodeId "a" number
  name := name
  parentPersistentId := some parent
  tags := []
  components := []

/-- The torch has four nodes on three levels, and all four become records. -/
theorem instantiate_measured_torch :
    torch.nodeCount = 4 ∧ torch.levels = 3 ∧
      (torches.instantiate toString shelfTorch (.startingAt 7) 0).result =
        .ok [torchRecord 7 0 "torch" "shelf", torchRecord 8 1 "bulb" "a-0",
          torchRecord 9 2 "case" "a-0", torchRecord 10 3 "spring" "a-2"] ∧
      (∀ diagnostic ∈ (torches.instantiate toString shelfTorch (.startingAt 7) 0).diagnostics,
        diagnostic.code ≠ .depthExceeded ∧ diagnostic.code ≠ .nestedPrefabInstance) ∧
      Instantiator.instantiate { torches with maxDepth := 3 } toString shelfTorch
          (.startingAt 7) 0 =
        Instantiator.instantiate { torches with maxDepth := 64 } toString shelfTorch
          (.startingAt 7) 0 := by
  obtain ⟨hcounts, hinstance⟩ :=
    instantiate_measured torches toString shelfTorch (.startingAt 7) 0 rfl
  obtain ⟨hrecords, hlimits⟩ := hinstance (.ofRoot "torch" torch) rfl rfl
  have hlevels : torch.levels = 3 := by
    simp [(hcounts _).2, torch, named]
  have hok : (torches.instantiate toString shelfTorch (.startingAt 7) 0).result =
      .ok [torchRecord 7 0 "torch" "shelf", torchRecord 8 1 "bulb" "a-0",
        torchRecord 9 2 "case" "a-0", torchRecord 10 3 "spring" "a-2"] := by
    simp only [Instantiator.instantiate, walk_eq_stamp]
    rfl
  obtain ⟨-, -, hsilent⟩ := hrecords _ hok
  obtain ⟨hlength, hnone⟩ := (hsilent (silent_standard DiagnosticCode.noConfusion)
    (silent_standard DiagnosticCode.noConfusion)).2 ⟨Nat.le_of_eq hlevels, unmarked_torch⟩
  exact ⟨hlength.symm, hlevels, hok, hnone,
    hlimits 3 64 (Nat.le_of_eq hlevels) (hlevels ▸ by decide)⟩

end SceneLoad
