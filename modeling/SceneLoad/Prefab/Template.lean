import SceneLoad.Schema.Read

/-!
# Template trees

A prefab is a tree of nodes with undecoded components. Trees are measured by working off a stack of
pending nodes, so the depth of a tree does not limit what can be measured. The children of a node
are put on the stack in order, so the last of them is worked off first.
-/

namespace SceneLoad

/-- A node of a template tree with its subtrees. -/
structure Template where
  name : String := ""
  tags : List String := []
  components : Object := []
  children : List Template := []
deriving Inhabited

namespace Template

/-- A node that has a name only. -/
def named (name : String) : Template := { name }

/-- The node with a component stored; one of the same kind is replaced. -/
def withComponent (template : Template) (kind : String) (value : Json) : Template :=
  { template with components := Object.insert kind value template.components }

/-- The node with one more child at the end. -/
def withChild (template child : Template) : Template :=
  { template with children := template.children ++ [child] }

mutual

/-- Number of nodes. -/
def size : Template → Nat
  | ⟨_, _, _, children⟩ => sizeAll children + 1

/-- Number of nodes of several trees. -/
def sizeAll : List Template → Nat
  | [] => 0
  | template :: rest => template.size + sizeAll rest

end

theorem size_eq (template : Template) : template.size = sizeAll template.children + 1 := by
  cases template
  rfl

theorem sizeAll_append (xs ys : List Template) : sizeAll (xs ++ ys) = sizeAll xs + sizeAll ys := by
  induction xs with
  | nil => simp [sizeAll]
  | cons x xs ih => simp [sizeAll, ih, Nat.add_assoc]

theorem sizeAll_reverse (templates : List Template) :
    sizeAll templates.reverse = sizeAll templates := by
  induction templates with
  | nil => rfl
  | cons template rest ih => simp [sizeAll_append, sizeAll, ih, Nat.add_comm]

/-- Nodes in the pending trees, the next one first. -/
def countPending : List Template → Nat
  | [] => 0
  | template :: pending => countPending (template.children.reverse ++ pending) + 1
termination_by pending => sizeAll pending
decreasing_by
  simp only [List.unattach_reverse, List.unattach_attach, sizeAll_append, sizeAll_reverse, sizeAll,
    size_eq]
  omega

/-- Number of nodes, the root included. -/
def nodeCount (template : Template) : Nat := countPending [template]

/-- Trees with one level for all their roots. -/
def atLevel (level : Nat) (templates : List Template) : List (Template × Nat) :=
  templates.map (·, level)

theorem map_fst_atLevel (level : Nat) (templates : List Template) :
    (atLevel level templates).map Prod.fst = templates := by
  simp [atLevel, Function.comp_def]

/-- The deepest level among the pending trees, the next one first, each given with the level of its
root. -/
def deepestPending : List (Template × Nat) → Nat
  | [] => 0
  | (template, level) :: pending =>
    max level (deepestPending (atLevel (level + 1) template.children.reverse ++ pending))
termination_by pending => sizeAll (pending.map Prod.fst)
decreasing_by
  simp only [List.unattach_reverse, List.unattach_attach, List.map_append, map_fst_atLevel,
    List.map_cons, sizeAll_append, sizeAll_reverse, sizeAll, size_eq]
  omega

/-- Number of levels; a lone node has one. -/
def levels (template : Template) : Nat := deepestPending [(template, 1)]

mutual

/-- Equality up to the order of component kinds and of object keys. -/
def equiv : Template → Template → Bool
  | ⟨name, tags, components, children⟩, other =>
    name == other.name && tags == other.tags && Object.equiv components other.components &&
      equivAll children other.children

/-- Equality of lists of trees, one by one. -/
def equivAll : List Template → List Template → Bool
  | [], [] => true
  | template :: rest, other :: others => template.equiv other && equivAll rest others
  | _, _ => false

end

instance : BEq Template := ⟨equiv⟩

/-- How a node is written. -/
def layout : Layout Template Template where
  name := "PrefabEntity"
  fields :=
    .field "name" "" .text <|
    .field "tags" [] (.list .text) <|
    .field "components" [] .object <|
    .field "children" [] (.list .self) .nil
  build := fun (name, tags, components, children, _) => { name, tags, components, children }

/-- Reads a tree of at most the given number of levels of JSON. -/
def readWithin : (fuel : Nat) → Json → Except Fault Template
  | 0, value => .error (.here (.wrongType value.found .nothing))
  | fuel + 1, value => layout.shape.readWith (readWithin fuel) value

/-- Reads a tree. The JSON value is at least as deep as the tree. -/
def read (value : Json) : Except Fault Template := readWithin (value.depth + 1) value

mutual

/-- The tree as JSON. Empty tags and children are left out. -/
def toJson : Template → Json
  | ⟨name, tags, components, children⟩ =>
    .obj <| ("name", .str name) ::
      (if tags.isEmpty then [] else [("tags", .arr (tags.map Json.str))]) ++
      [("components", .obj components)] ++
      (if children.isEmpty then [] else [("children", .arr (toJsonAll children))])

/-- Several trees as JSON. -/
def toJsonAll : List Template → List Json
  | [] => []
  | template :: rest => template.toJson :: toJsonAll rest

end

end Template

end SceneLoad
