import Understudy.Surface.Basic

set_option autoImplicit false

/-!
# The surface cache

Surfaces are computed once per type while caching is on: a hit answers the stored surface, a
miss computes it and stores it unless the computation fails. Hits and misses are counted only
while caching is on. Turning caching off, or clearing, drops every stored surface; the counters
stay.
-/

namespace Understudy

/-- Stored surfaces and hit and miss counters. -/
structure SurfaceCache where
  enabled : Bool
  entries : List (TypeId × Surface) := []
  hits : UInt64 := 0
  misses : UInt64 := 0
  deriving Repr

namespace SurfaceCache

/-- An empty cache, on or off. -/
def fresh (enabled : Bool) : SurfaceCache := { enabled }

/-- The stored surface of a type. -/
def find? (k : SurfaceCache) (t : TypeId) : Option Surface :=
  (k.entries.find? (·.1 == t)).map (·.2)

/-- Whether a surface of the type is stored. -/
def contains (k : SurfaceCache) (t : TypeId) : Bool := (k.find? t).isSome

/-- The number of stored surfaces. -/
def size (k : SurfaceCache) : Nat := k.entries.length

def setEnabled (k : SurfaceCache) (on : Bool) : SurfaceCache :=
  if k.enabled && !on then { k with enabled := on, entries := [] } else { k with enabled := on }

def clear (k : SurfaceCache) : SurfaceCache := { k with entries := [] }

/-- The surface of a type, through the cache. -/
def get (k : SurfaceCache) (c : Catalog) (t : TypeId) : Except SurfaceFault Surface × SurfaceCache :=
  if !k.enabled then (Surface.compute c t, k)
  else match k.find? t with
    | some s => (.ok s, { k with hits := k.hits + 1 })
    | none =>
      let k := { k with misses := k.misses + 1 }
      match Surface.compute c t with
      | .ok s => (.ok s, { k with entries := k.entries ++ [(t, s)] })
      | .error e => (.error e, k)

end SurfaceCache

end Understudy
