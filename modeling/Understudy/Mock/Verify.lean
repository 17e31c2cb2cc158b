import Understudy.Mock.Session

set_option autoImplicit false

/-!
# Verification

Verification walks a mock tree depth first and collects the path of every arranged call that
must be called but never was, and of every ensured property that was never read. Paths read like
the arrangement that made them, `subject.GetAnother().Another.DoSomething("Hello")`.

Within a node the walk visits members in first-arranged order (a child; a property, then the
mock it holds; each arranged call, then the node it yields), then indexer entries holding mocks
(segment `[keys]`), then displaced subtrees. Each node is walked once: it is marked visited
before anything else, so shared and cyclic structure terminates. A node first met with more than
256 segments on the path is marked but not walked; `room` counts the levels left before that
limit, so the walk is structural recursion on it. A path of more than 64 segments is reported as
its first 64 followed by `...`.
-/

namespace Understudy

def verifyDepthLimit : Nat := 256

def reportedSegmentLimit : Nat := 64

def renderPath (path : List String) : String :=
  if path.length > reportedSegmentLimit then
    ".".intercalate (path.take reportedSegmentLimit) ++ "..."
  else ".".intercalate path

/-- What a walk has seen and found so far. -/
structure Walk where
  visited : List NodeId := []
  unmet : List String := []

def Walk.report (w : Walk) (path : List String) : Walk := { w with unmet := w.unmet ++ [renderPath path] }

/-- Walks a node reached by `path`, with `room` levels left before the depth limit. -/
def walk (g : Graph) (c : Catalog) : Nat → NodeId → List String → Walk → Walk
  | 0, n, _, w => if w.visited.contains n then w else { w with visited := n :: w.visited }
  | room + 1, n, path, w =>
    if w.visited.contains n then w
    else
      let w := { w with visited := n :: w.visited }
      let nd := g.node n
      let w := nd.members.foldl (fun w (name, e) =>
        match e with
        | .child m => walk g c room m (path ++ [name]) w
        | .property s =>
          let sl := g.slot s
          let p := path ++ [name]
          let w := if sl.ensured && sl.reads == 0 then w.report p else w
          match sl.value with
          | .mock m => walk g c room m p w
          | _ => w
        | .methods es => es.foldl (fun w e =>
            let x := g.exp e
            let p := path ++ [x.describe c]
            let w := if x.mustBeCalled && x.calls == 0 then w.report p else w
            match x.outcome.node? with
            | some m => walk g c room m p w
            | none => w) w) w
      let w := nd.indexers.foldl (fun w ie =>
        match ie.value with
        | .mock m => walk g c room m (path ++ ["[" ++ ie.args.text c ++ "]"]) w
        | _ => w) w
      nd.displaced.foldl (fun w (seg, m) => walk g c room m (path ++ [seg]) w) w

def unmetPaths (g : Graph) (c : Catalog) (root : NodeId) (pre : String) : List String :=
  let path := if pre.isEmpty then [] else [pre]
  (walk g c (verifyDepthLimit + 1 - path.length) root path {}).unmet

def verifyNode (g : Graph) (c : Catalog) (root : NodeId) (pre : String) : Except Unmet Unit :=
  match unmetPaths g c root pre with
  | [] => .ok ()
  | paths => .error ⟨paths⟩

namespace Session

def unmetOf (s : Session) (roots : List (String × NodeId)) : List String :=
  roots.flatMap fun (name, n) => unmetPaths s.graph s.catalog n name

def verify (s : Session) : Except Unmet Unit :=
  match s.unmetOf s.roots with
  | [] => .ok ()
  | paths => .error ⟨paths⟩

def ensureAll (s : Session) (names : List String) : Except MockFault Unit := do
  let roots ← names.mapM fun name => match findKey? s.roots name with
    | some n => .ok (name, n)
    | none => .error (.unknownMock name)
  match s.unmetOf roots with
  | [] => .ok ()
  | paths => .error (.verification ⟨paths⟩)

end Session

end Understudy
