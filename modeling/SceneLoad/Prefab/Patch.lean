import SceneLoad.Component.Decoder
import SceneLoad.Prefab.Template
import SceneLoad.SortedMap
import SceneLoad.Text.Index

/-!
# Override patches

An instance may override components of its template. A patch names component kinds, each with the
fields to replace, and under `children` further patches for the children of the node, by position.
`Patch.parse` reads the authored form; `Patch.apply` merges a patch into a template. The merge of a
component is shallow, keeps the order of the template and adds what is new at the end.
-/

namespace SceneLoad

/-- Overrides for a node and, by index, for its children. -/
structure Patch where
  components : Object := []
  /-- Ascending by index. -/
  children : List (Nat × Patch) := []
deriving Inhabited

/-- Why a value is not a patch. -/
inductive PatchCause where
  | notObject
  | childrenForm
  | childKey
deriving DecidableEq

def PatchCause.message : PatchCause → String
  | .notObject => "override patch must be an object"
  | .childrenForm => "children overrides must be an array or an index-keyed object"
  | .childKey => "child override key must be a decimal index"

/-- A cause and the place it was found at. -/
structure PatchFault where
  path : Path
  cause : PatchCause
deriving DecidableEq

namespace PatchFault

/-- The fault seen from the object that holds the value under `key`. -/
def place {α : Type} (key : String) : Except PatchFault α → Except PatchFault α
  | .ok value => .ok value
  | .error fault => .error { fault with path := .key key :: fault.path }

def payloadError (fault : PatchFault) : PayloadError := ⟨fault.path.render, fault.cause.message⟩

end PatchFault

namespace Patch

def isEmpty (patch : Patch) : Bool := patch.components.isEmpty && patch.children.isEmpty

/-- The key that holds the patches of the children. -/
def childrenKey : String := "children"

mutual

/-- Parses a patch: the entries of an object in order. -/
def parse : Json → Except PatchFault Patch
  | .obj entries => parseEntries {} entries
  | _ => .error ⟨[], .notObject⟩

/-- Parses the entries of a patch after those that are in `patch`. -/
def parseEntries (patch : Patch) : List (String × Json) → Except PatchFault Patch
  | [] => .ok patch
  | (key, value) :: rest =>
    if key = childrenKey then
      match PatchFault.place key (parseChildren value) with
      | .error fault => .error fault
      | .ok children => parseEntries { patch with children } rest
    else parseEntries { patch with components := Object.insert key value patch.components } rest

/-- Parses the patches of children: none, by position, or by index. -/
def parseChildren : Json → Except PatchFault (List (Nat × Patch))
  | .null => .ok []
  | .arr items => parseItems 0 [] items
  | .obj entries => parseKeyed [] entries
  | _ => .error ⟨[], .childrenForm⟩

/-- Parses patches by position, the first at `index`. A `null` overrides nothing. -/
def parseItems (index : Nat) (children : List (Nat × Patch)) :
    List Json → Except PatchFault (List (Nat × Patch))
  | [] => .ok children
  | .null :: rest => parseItems (index + 1) children rest
  | item :: rest =>
    match PatchFault.place (toString index) (parse item) with
    | .error fault => .error fault
    | .ok child => parseItems (index + 1) (SortedMap.insert index child children) rest

/-- Parses patches by index. -/
def parseKeyed (children : List (Nat × Patch)) :
    List (String × Json) → Except PatchFault (List (Nat × Patch))
  | [] => .ok children
  | (key, value) :: rest =>
    match Text.parseIndex key with
    | none => .error ⟨[.key key], .childKey⟩
    | some index =>
      match PatchFault.place key (parse value) with
      | .error fault => .error fault
      | .ok child => parseKeyed (SortedMap.insert index child children) rest

end

/-! ## Merging -/

/-- One component under its overrides: fields are replaced one by one where both are objects, and
all at once otherwise. -/
def mergeComponent : Json → Json → Json
  | .obj base, .obj fields => .obj (Object.insertAll base fields)
  | _, overrides => overrides

/-- Components under their overrides, in the order of the template, and then those that only the
patch has. -/
def mergeComponents (template overrides : Object) : Object :=
  let merged := template.map fun (kind, value) =>
    match Object.find? overrides kind with
    | some override => (kind, mergeComponent value override)
    | none => (kind, value)
  merged ++ overrides.filter fun (kind, _) => !Object.contains template kind

/-- The children of a patch that a node with `count` children does not have. -/
def outOfRange (patch : Patch) (name : String) (count : Nat) : List Diagnostic :=
  (patch.children.filter fun (index, _) => count ≤ index).map fun (index, _) =>
    { code := .childOverrideOutOfRange
      message := "child override " ++ toString index ++ " ignored; template node has " ++
        toString count ++ " children"
      entity := some name }

mutual

/-- Merges a patch into a template, and reports the overrides of children that do not exist. -/
def apply (patch : Patch) : Template → Template × List Diagnostic
  | ⟨name, tags, components, children⟩ =>
    let (merged, diagnostics) := patch.applyChildren 0 children
    ({ name, tags, components := mergeComponents components patch.components, children := merged },
      diagnostics ++ patch.outOfRange name children.length)

/-- Merges the patches of children into them, the first at `index`. -/
def applyChildren (patch : Patch) (index : Nat) : List Template → List Template × List Diagnostic
  | [] => ([], [])
  | child :: rest =>
    let (merged, diagnostics) := match SortedMap.find? patch.children index with
      | some childPatch => childPatch.apply child
      | none => (child, [])
    let (others, more) := patch.applyChildren (index + 1) rest
    (merged :: others, diagnostics ++ more)

end

end Patch

end SceneLoad
