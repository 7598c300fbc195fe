/-!
# Runtime ids

Every record of a load pass gets a runtime id: a 64-bit number, handed out in ascending order and
never twice. After the greatest one the allocator is exhausted for good.
-/

namespace SceneLoad

/-- An engine-local entity handle. -/
structure EntityId where
  value : UInt64
deriving DecidableEq

def EntityId.render (id : EntityId) : String := "#" ++ toString id.value.toNat

/-- Hands out runtime ids. -/
structure IdAllocator where
  /-- The first id handed out. -/
  first : UInt64
  /-- The id to hand out next, unless all are used up. -/
  next : Option UInt64
deriving DecidableEq

namespace IdAllocator

/-- The greatest id. -/
def last : UInt64 := 18446744073709551615

/-- Continues an id space in which everything below `first` is taken. -/
def startingAt (first : UInt64) : IdAllocator := ⟨first, some first⟩

/-- Hands out one id, if there is one. -/
def allocate (allocator : IdAllocator) : Option (EntityId × IdAllocator) :=
  match allocator.next with
  | none => none
  | some id => some (⟨id⟩, { allocator with next := if id = last then none else some (id + 1) })

def isExhausted (allocator : IdAllocator) : Bool := allocator.next.isNone

/-- Number of ids handed out, as far as 64 bits can count them. -/
def allocated (allocator : IdAllocator) : Nat :=
  match allocator.next with
  | some next => next.toNat - allocator.first.toNat
  | none => min last.toNat (last.toNat - allocator.first.toNat + 1)

end IdAllocator

end SceneLoad
