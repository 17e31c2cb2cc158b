import Understudy.Mock.Arrange

set_option autoImplicit false

/-!
# Verb-driven arrangement

A dynamic front end sees every suffix of an arranged call as a name with loosely typed arguments.
`Handle.apply` resolves the name against the node's verb names: a verb configures the call, any
other name arranges a call of that name on the call's result, its arguments taken as patterns.
-/

namespace Understudy

/-- A loosely typed verb or call argument. -/
inductive VerbArg where
  | value (v : Value)
  | pattern (p : ArgPattern)
  | callback (cb : Callback)

def VerbArg.kindText : VerbArg → String
  | .value _ => "value"
  | .pattern _ => "matcher"
  | .callback _ => "callback"

def VerbArg.describe (args : List VerbArg) : String :=
  if args.isEmpty then "no arguments"
  else "[" ++ ", ".intercalate (args.map VerbArg.kindText) ++ "]"

def VerbArg.toPattern (member : String) : VerbArg → Except ArrangeFault ArgPattern
  | .value v => .ok (.value v)
  | .pattern p => .ok p
  | .callback _ => .error (.callbackAsArgument member)

/-- Applies a verb, or arranges a call of `name` on the result when it is not a verb. -/
def Handle.apply (h : Handle) (name : String) (args : List VerbArg) : Act ArrangeFault Handle :=
  let bad (expected : String) : Act ArrangeFault Handle :=
    throw (.verbArguments name expected (VerbArg.describe args))
  match h.verbs.lookup name with
  | none => do
    let ps ← liftExcept (args.mapM (VerbArg.toPattern name))
    h.call name (.positional ps)
  | some .returns =>
    match args with
    | [.value v] => h.returns v
    | _ => bad "exactly one value"
  | some .ensure => if args.isEmpty then h.ensure else bad "no arguments"
  | some .act =>
    match args with
    | [.callback cb] => h.onCall cb
    | _ => bad "exactly one callback"
  | some .out =>
    match args with
    | [.value (.int i), .value v] =>
      if i.toInt < 0 then bad "a non-negative index" else h.outIndex i.toInt.toNat v
    | [.value (.str n), .value v] => h.outName n v
    | _ => bad "[index or name, value]"

end Understudy
