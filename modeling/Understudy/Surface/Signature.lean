import Understudy.Catalog.Hierarchy

set_option autoImplicit false

/-!
# Signatures and most-derived resolution

A member may be declared on several levels of a class chain: a virtual in a base, an override
below it, a sealed override further down. Declarations are bucketed by signature (a method by
name, generic arity and parameter types; a property or event by name; an indexer by parameter
types and access mode), buckets in the order their signature is first seen, and each bucket
resolves to its declaration on the deepest level.

Accessors and fields have no signature of their own, and static members take no part. Within a
bucket, candidates arrive by rising rank; each is compared with the running winner only. Two
candidates of one rank mean a signature declared twice on one type, and a property whose type
changes between levels is malformed too; both are invariant violations.
-/

namespace Understudy

/-- The identity of a member for overriding. -/
inductive Signature where
  | method (name : String) (genericArity : Nat) (params : List TypeId)
  | property (name : String)
  | indexer (params : List TypeId) (readable writable : Bool)
  | event (name : String)
  deriving DecidableEq, Repr

def Signature.of? (m : Member) : Option Signature :=
  match m.shape with
  | .method _ _ _ (some _) => none
  | .method n ps _ none => some (.method m.name n (ps.map (·.type)))
  | .property _ _ _ => some (.property m.name)
  | .indexer ps _ r w => some (.indexer (ps.map (·.type)) r w)
  | .event _ => some (.event m.name)
  | .field _ => none

/-- One declaration of a signature, with the level it is declared on. -/
structure Candidate where
  declaring : TypeId
  /-- Position of the declaring level in the chain, `Object` being 0. -/
  rank : Nat
  decl : Member
  deriving DecidableEq, Repr

/-- Declarations bucketed by signature, in first-seen order. -/
structure SignatureTable where
  buckets : List (Signature × List Candidate)
  deriving Repr

namespace SignatureTable

/-- No declarations. -/
def empty : SignatureTable := ⟨[]⟩

def insert (t : SignatureTable) (s : Signature) (cand : Candidate) : SignatureTable :=
  if t.buckets.any (·.1 == s) then
    ⟨t.buckets.map fun (k, cs) => if k == s then (k, cs ++ [cand]) else (k, cs)⟩
  else ⟨t.buckets ++ [(s, [cand])]⟩

def addLevel (t : SignatureTable) (declaring : TypeId) (rank : Nat) (members : List Member) :
    SignatureTable :=
  members.foldl (fun t m =>
    if m.isStatic then t
    else match Signature.of? m with
      | none => t
      | some s => t.insert s ⟨declaring, rank, m⟩) t

/-- The number of distinct signatures. -/
def size (t : SignatureTable) : Nat := t.buckets.length

end SignatureTable

def Member.propertyType? (m : Member) : Option TypeId :=
  match m.shape with
  | .property ty _ _ => some ty
  | _ => none

def challenge (typeName : String) (winner cand : Candidate) : Except SurfaceFault Candidate :=
  if cand.rank == winner.rank then
    .error (.invariantViolation typeName cand.decl.name
      s!"declared twice on the same type {cand.declaring.text}")
  else match cand.decl.propertyType?, winner.decl.propertyType? with
    | some a, some b =>
      if a != b then
        .error (.invariantViolation typeName cand.decl.name
          s!"property re-declared with type {a.text} (was {b.text})")
      else .ok (if cand.rank > winner.rank then cand else winner)
    | _, _ => .ok (if cand.rank > winner.rank then cand else winner)

def mostDerived (typeName : String) : List Candidate → Except SurfaceFault Candidate
  | [] => .error (.invariantViolation typeName "" "empty candidate list")
  | first :: rest => rest.foldlM (challenge typeName) first

def SignatureTable.resolve (t : SignatureTable) (typeName : String) :
    Except SurfaceFault (List (Signature × Candidate)) :=
  t.buckets.mapM fun (s, cs) => do pure (s, ← mostDerived typeName cs)

end Understudy
