/-
  Realm.Footprint.Cache — areas that were built before, the least recently asked for given up first.

  A build has a serial number, so that two requests can be told to have been given the very same area.
-/
import Realm.Footprint.Shape

namespace Realm

/-- A built area and the number of its build. -/
structure SharedArea where
  serial : Nat
  area : Area

/-- Built areas by shape, the last one asked for first, and what the requests came to. -/
structure AreaCache where
  limit : Nat
  entries : List (Shape × SharedArea) := []
  built : Nat := 0
  hits : Nat := 0
  misses : Nat := 0
  evictions : Nat := 0

namespace AreaCache

/-- An empty cache.  It holds one area at least. -/
def ofCapacity (capacity : Nat) : AreaCache := { limit := max capacity 1 }

def find? (c : AreaCache) (s : Shape) : Option SharedArea :=
  (c.entries.find? fun e => e.1 = s).map Prod.snd

def size (c : AreaCache) : Nat := c.entries.length

/-- A known shape, now the last one asked for. -/
def promote (c : AreaCache) (s : Shape) (a : SharedArea) : AreaCache :=
  { c with entries := (s, a) :: c.entries.filter fun e => e.1 ≠ s, hits := c.hits + 1 }

/-- A new shape; in a full cache the one not asked for the longest goes. -/
def push (c : AreaCache) (s : Shape) (a : SharedArea) : AreaCache :=
  let full := c.limit ≤ c.entries.length
  { c with
    entries := (s, a) :: (if full then c.entries.dropLast else c.entries)
    evictions := c.evictions + (if full then 1 else 0) }

/-- **Asks for an area.**  A shape that cannot be built counts as a miss and is not remembered. -/
def request (c : AreaCache) (s : Shape) : Except Footprint.Fault SharedArea × AreaCache :=
  match c.find? s with
  | some a => (.ok a, c.promote s a)
  | none =>
    let c := { c with misses := c.misses + 1 }
    match s.build with
    | .error e => (.error e, c)
    | .ok area => (.ok ⟨c.built, area⟩, { c.push s ⟨c.built, area⟩ with built := c.built + 1 })

/-- The share of requests that were answered from the cache. -/
def hitRate (c : AreaCache) : Float :=
  let total := c.hits + c.misses
  if total = 0 then 0 else c.hits.toFloat / total.toFloat

end AreaCache

end Realm
