/-!
# Maps in key order

A map as the list of its entries, ascending by key. `find?` after `insert` behaves as in any map,
and because the entries are sorted, equal maps are equal lists.
-/

namespace SceneLoad

/-- Entries with strictly ascending keys. -/
abbrev SortedMap (κ α : Type) := List (κ × α)

namespace SortedMap

variable {κ α : Type} [DecidableEq κ] [LT κ] [DecidableLT κ]

/-- The value stored under a key. -/
def find? (map : SortedMap κ α) (key : κ) : Option α := List.lookup key map

def contains (map : SortedMap κ α) (key : κ) : Bool := (map.find? key).isSome

/-- The entry under a key, with the key as it is stored. -/
def entry? (map : SortedMap κ α) (key : κ) : Option (κ × α) :=
  List.find? (fun entry => entry.1 = key) map

/-- The keys, ascending. -/
def keys (map : SortedMap κ α) : List κ := map.map Prod.fst

/-- The values in the order of their keys. -/
def values (map : SortedMap κ α) : List α := map.map Prod.snd

/-- Stores a value, in place of an earlier one under the same key. -/
def insert (key : κ) (value : α) : SortedMap κ α → SortedMap κ α
  | [] => [(key, value)]
  | (k, v) :: rest =>
    if key < k then (key, value) :: (k, v) :: rest
    else if key = k then (key, value) :: rest
    else (k, v) :: insert key value rest

end SortedMap

end SceneLoad
