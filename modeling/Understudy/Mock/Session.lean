import Understudy.Mock.Graph
import Understudy.Surface.Cache
import Understudy.Settings.Basic

set_option autoImplicit false

/-!
# Sessions

A session owns everything one test arranges: its settings, the type catalogue, the surface cache,
the named root mocks in creation order, the mock graph, the registered user code and the journal
of probes.

Operations on a session are state transitions that may end in a fault, `Act ε`. A fault does not
undo what happened before it: like the engine it describes, a failing operation leaves the
changes it made so far in place.
-/

namespace Understudy

/-- Everything one test arranges. -/
structure Session where
  settings : Settings
  catalog : Catalog := Catalog.standard
  cache : SurfaceCache
  roots : List (String × NodeId) := []
  graph : Graph := {}
  code : UserCode := {}
  journal : Array Probe := #[]

/-- A session operation that may end in a fault of type `ε`. -/
abbrev Act (ε α : Type) := EStateM ε Session α

namespace Session

def build (s : Settings) : Session := { settings := s, cache := SurfaceCache.fresh s.cacheSurfaces }

def create (s : Settings) : Except SettingsError Session := do
  s.validate
  pure (build s)

/-- A session with the standard settings. -/
def standard : Session := build Settings.standard

def rootNames (s : Session) : List String := s.roots.map (·.1)

end Session

/-- Runs user code against the session's journal. -/
def probe {ε α : Type} (m : Probing α) : Act ε α := fun s =>
  let (a, j) := m.run s.journal
  .ok a { s with journal := j }

/-- A result or a fault. -/
def liftExcept {ε α : Type} : Except ε α → Act ε α
  | .ok a => pure a
  | .error e => throw e

def attempt {ε ε' α : Type} (m : Act ε α) : Act ε' (Except ε α) := fun s =>
  match m s with
  | .ok a s' => .ok (.ok a) s'
  | .error e s' => .ok (.error e) s'

def onGraph {ε α : Type} (f : Graph → α × Graph) : Act ε α := fun s =>
  let (a, g) := f s.graph
  .ok a { s with graph := g }

/-- A change of the graph. -/
def changeGraph {ε : Type} (f : Graph → Graph) : Act ε Unit :=
  modify fun s => { s with graph := f s.graph }

/-- The session's catalogue. -/
def catalog {ε : Type} : Act ε Catalog := do pure (← get).catalog

/-- The session's graph. -/
def graph {ε : Type} : Act ε Graph := do pure (← get).graph

def spawnFrom {ε : Type} (parent : NodeId) : Act ε NodeId := do
  let verbs := ((← graph).node parent).verbs
  onGraph (·.spawn verbs)

def freshNode {ε : Type} : Act ε NodeId := onGraph (·.spawn VerbNames.standard)

def rootMock {ε : Type} (name : String) : Act ε NodeId := do
  let s ← get
  match findKey? s.roots name with
  | some n => pure n
  | none =>
    let n ← onGraph (·.spawn s.settings.verbs)
    modify fun s => { s with roots := s.roots ++ [(name, n)] }
    pure n

def registerType {ε : Type} (d : TypeDesc) : Act ε TypeId := fun s =>
  let (t, c) := s.catalog.register d
  .ok t { s with catalog := c }

def surfaceOf (t : TypeId) : Act SurfaceFault Surface := fun s =>
  match s.cache.get s.catalog t with
  | (.ok surf, k) => .ok surf { s with cache := k }
  | (.error e, k) => .error e { s with cache := k }

def setCaching {ε : Type} (on : Bool) : Act ε Unit :=
  modify fun s => { s with cache := s.cache.setEnabled on }

def clearCache {ε : Type} : Act ε Unit := modify fun s => { s with cache := s.cache.clear }

def withCode {ε α : Type} (f : UserCode → α × UserCode) : Act ε α := fun s =>
  let (a, u) := f s.code
  .ok a { s with code := u }

end Understudy
