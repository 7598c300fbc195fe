import SceneLoad.Prefab.Definition
import SceneLoad.SortedMap

/-!
# Prefab registries

Definitions by id. A definition whose dependencies would lead back to it is refused; dependencies on
ids that are not registered lead nowhere. `search` follows the dependencies depth first and enters
every id once, so one more than the number of definitions bounds how deep it goes.
-/

namespace SceneLoad

/-- A refused registration: the path of dependencies from the id back to itself. -/
structure CycleError where
  id : String
  cycle : List String
deriving DecidableEq

namespace CycleError

def message (error : CycleError) : String :=
  "prefab '" ++ error.id ++ "' would form a dependency cycle: " ++
    String.intercalate " -> " error.cycle

def diagnostic (error : CycleError) : Diagnostic :=
  { code := .cyclicDependency, message := error.message, entity := some error.id }

end CycleError

/-- Definitions by id. -/
structure PrefabRegistry where
  definitions : SortedMap String Definition := []

/-- How far a search for an id has come. -/
inductive Search where
  /-- The path from here to the id, both ends included. -/
  | found (path : List String)
  /-- The id is not reached; these ids have been entered. -/
  | clear (visited : List String)

namespace PrefabRegistry

def empty : PrefabRegistry := {}

def get? (registry : PrefabRegistry) (id : String) : Option Definition :=
  SortedMap.find? registry.definitions id

def contains (registry : PrefabRegistry) (id : String) : Bool :=
  SortedMap.contains registry.definitions id

/-- The registered ids, ascending. -/
def ids (registry : PrefabRegistry) : List String := SortedMap.keys registry.definitions

/-- The definitions in the order of their ids. -/
def toList (registry : PrefabRegistry) : List Definition := SortedMap.values registry.definitions

def size (registry : PrefabRegistry) : Nat := registry.definitions.length

/-- What the definition of an id depends on. -/
def dependencies (registry : PrefabRegistry) (id : String) : List String :=
  match registry.get? id with
  | none => []
  | some definition => definition.dependencies

/-- Searches from each id in turn; `descend` searches behind an id that is entered for the first
time. -/
def searchEach (target : String) (descend : String → List String → Search) :
    (visited : List String) → List String → Search
  | visited, [] => .clear visited
  | visited, id :: rest =>
    if id = target then .found [id]
    else if id ∈ visited then searchEach target descend visited rest
    else
      match descend id (id :: visited) with
      | .found path => .found (id :: path)
      | .clear visited => searchEach target descend visited rest

/-- Searches for `target` from the given ids along the dependencies of registered definitions. -/
def search (registry : PrefabRegistry) (target : String) :
    (fuel : Nat) → (visited : List String) → List String → Search
  | 0, visited, _ => .clear visited
  | fuel + 1, visited, ids =>
    searchEach target
      (fun id visited => registry.search target fuel visited (registry.dependencies id)) visited ids

/-- The path by which a definition would depend on itself, if there is one. -/
def cycleThrough (registry : PrefabRegistry) (candidate : Definition) : Option (List String) :=
  match registry.search candidate.id (registry.size + 1) [] candidate.dependencies with
  | .found path => some (candidate.id :: path)
  | .clear _ => none

/-- Stores a definition under its id, in place of an earlier one, unless it would depend on
itself. -/
def register (registry : PrefabRegistry) (definition : Definition) :
    Except CycleError PrefabRegistry :=
  match registry.cycleThrough definition with
  | some cycle => .error ⟨definition.id, cycle⟩
  | none => .ok ⟨SortedMap.insert definition.id definition registry.definitions⟩

/-- Registers definitions in order and goes on after a refusal. Gives the number stored and a
diagnostic for each refusal. -/
def registerAll : PrefabRegistry → List Definition → PrefabRegistry × Nat × List Diagnostic
  | registry, [] => (registry, 0, [])
  | registry, definition :: rest =>
    match registry.register definition with
    | .ok registry =>
      let (registry, stored, diagnostics) := registerAll registry rest
      (registry, stored + 1, diagnostics)
    | .error error =>
      let (registry, stored, diagnostics) := registerAll registry rest
      (registry, stored, error.diagnostic :: diagnostics)

/-- Parses definitions and registers those that can be read. What cannot be parsed is reported
first. -/
def ofJson (values : List Json) : PrefabRegistry × List Diagnostic :=
  let (definitions, unparsed) := Definition.parseAll values
  let (registry, _, refused) := empty.registerAll definitions
  (registry, unparsed ++ refused)

end PrefabRegistry

end SceneLoad
