import Understudy.Mock.Code

set_option autoImplicit false

/-!
# Argument patterns

An arranged call says which calls it applies to: per position a literal value, a typed predicate
or a wildcard, or one predicate over the whole list, and a filter on the generic type arguments.

A literal null matches a null argument unless the argument is declared with a value type; any
other literal matches an equal value. A typed predicate first asks that the argument conforms to
its type and runs only then. Positions are tried left to right and the first failure stops the
list; a list predicate runs only when every value conforms to its declared types.

Patterns are compared structurally to recognise a repeated arrangement: literals by value
equality, wildcards by their type, predicates by the identity of their code.
-/

namespace Understudy

/-- Which generic instantiations an arranged call accepts. -/
inductive GenericsFilter where
  /-- Exactly these type arguments; none means non-generic calls only. -/
  | exact (types : List TypeId)
  | any
  deriving DecidableEq, Repr, Inhabited

namespace GenericsFilter

/-- Non-generic calls only. -/
def none : GenericsFilter := .exact []

/-- Whether a call with these type arguments is accepted. -/
def accepts (f : GenericsFilter) (actual : List TypeId) : Bool :=
  match f with
  | .exact types => types == actual
  | .any => true

/-- `""`, `<#4, #6>` or `<*>`, as paths show the filter. -/
def text : GenericsFilter → String
  | .exact [] => ""
  | .exact types => "<" ++ ", ".intercalate (types.map TypeId.text) ++ ">"
  | .any => "<*>"

end GenericsFilter

/-- A pattern for one argument position. -/
inductive ArgPattern where
  | value (v : Value)
  | predicate (type : TypeId) (p : PredId)
  | any (type : Option TypeId)
  deriving Inhabited

/-- A pattern for a whole argument list. -/
inductive ArgsPattern where
  | positional (items : List ArgPattern)
  | predicate (types : List TypeId) (p : ListPredId)
  deriving Inhabited

/-- One actual argument: its value, and the declared type and parameter name when the caller
knows the member. -/
structure CallArg where
  value : Value
  declared : Option TypeId := none
  name : Option String := none
  deriving Inhabited

/-- Untyped, unnamed arguments. -/
def CallArg.plain (vs : List Value) : List CallArg := vs.map fun v => { value := v }

/-- Whether a value may be written into the argument. -/
def CallArg.accepts (c : Catalog) (a : CallArg) (v : Value) : Bool :=
  match a.declared with
  | some t => v.conformsTo c t
  | none => true

namespace ArgPattern

def sameAs : ArgPattern → ArgPattern → Bool
  | .value a, .value b => a == b
  | .predicate ta pa, .predicate tb pb => ta == tb && pa == pb
  | .any a, .any b => a == b
  | _, _ => false

/-- The literal value, `<TypeName>` for a predicate, `*` for a wildcard. -/
def text (c : Catalog) : ArgPattern → String
  | .value v => v.literal
  | .predicate t _ => "<" ++ c.nameOf t ++ ">"
  | .any _ => "*"

/-- Whether the pattern accepts the argument; a predicate runs only on a conforming value. -/
def accepts (c : Catalog) (u : UserCode) (p : ArgPattern) (arg : CallArg) : Probing Bool :=
  match p with
  | .value .null =>
    pure (arg.value.isNull && match arg.declared with
      | some t => !c.isValueKind t
      | none => true)
  | .value v => pure (v == arg.value)
  | .predicate t q => if arg.value.conformsTo c t then u.runPred q arg.value else pure false
  | .any none => pure true
  | .any (some t) => pure (arg.value.conformsTo c t)

end ArgPattern

def matchPositions (c : Catalog) (u : UserCode) : List ArgPattern → List CallArg → Probing Bool
  | p :: ps, a :: as => do
    if ← p.accepts c u a then matchPositions c u ps as else pure false
  | _, _ => pure true

namespace ArgsPattern

/-- No arguments. -/
def empty : ArgsPattern := .positional []

/-- The number of arguments the pattern is for. -/
def arity : ArgsPattern → Nat
  | .positional items => items.length
  | .predicate types _ => types.length

/-- Whether the pattern accepts the arguments. -/
def accepts (c : Catalog) (u : UserCode) (p : ArgsPattern) (args : List CallArg) : Probing Bool :=
  if args.length != p.arity then pure false
  else match p with
    | .positional items => matchPositions c u items args
    | .predicate types q =>
      if (types.zip args).all fun (t, a) => a.value.conformsTo c t then
        u.runListPred q (args.map (·.value))
      else pure false

def sameAs : ArgsPattern → ArgsPattern → Bool
  | .positional a, .positional b =>
    a.length == b.length && (a.zip b).all fun (x, y) => x.sameAs y
  | .predicate ta pa, .predicate tb pb => ta == tb && pa == pb
  | _, _ => false

def isLiteral (p : ArgsPattern) (vs : List Value) : Bool :=
  match p with
  | .positional items =>
    items.length == vs.length && (items.zip vs).all fun
      | (.value lit, v) => lit == v
      | _ => false
  | .predicate _ _ => false

/-- The positions joined by a comma, or `<T1, T2>` for a list predicate. -/
def text (c : Catalog) : ArgsPattern → String
  | .positional items => ", ".intercalate (items.map (·.text c))
  | .predicate types _ => "<" ++ ", ".intercalate (types.map c.nameOf) ++ ">"

/-- Literal patterns for the given values. -/
def literal (vs : List Value) : ArgsPattern := .positional (vs.map .value)

end ArgsPattern

end Understudy
