import Understudy.Text.Words

set_option autoImplicit false

/-!
# Arrangement verbs and their names

Four verbs configure an arranged call: set its result, require it to be called, run an action on
each call, and register an out-value. A front end that arranges by member name sees verbs and
mocked members in one namespace, so the names of the verbs are settings.

`VerbNames.validate` accepts a table exactly when every name is a non-empty identifier and the four
names differ; the first fault found is reported, names before pairs, each in verb order.
-/

namespace Understudy

/-- An arrangement verb. -/
inductive Verb where
  /-- Set the result. -/
  | returns
  /-- Require at least one call. -/
  | ensure
  /-- Run an action on every matching call. -/
  | act
  /-- Register an out-value. -/
  | out
  deriving DecidableEq, Repr

namespace Verb

/-- Every verb, in table order. -/
def all : List Verb := [.returns, .ensure, .act, .out]

def label : Verb → String
  | .returns => "returns"
  | .ensure => "ensure"
  | .act => "do"
  | .out => "out"

def pairs : List (Verb × Verb) :=
  [(.returns, .ensure), (.returns, .act), (.returns, .out), (.ensure, .act), (.ensure, .out),
    (.act, .out)]

end Verb

/-- The names under which the verbs are recognised. -/
structure VerbNames where
  returns : String
  ensure : String
  act : String
  out : String
  deriving DecidableEq, Repr

/-- Why settings could not be loaded or are not valid. -/
inductive SettingsError where
  /-- The settings file could not be read. -/
  | unreadable
  /-- The text is not settings: bad JSON, a wrong type, a repeated key. -/
  | malformed
  | emptyVerb (verb : Verb)
  | invalidVerbName (verb : Verb) (name : String)
  | duplicateVerb (first second : Verb) (name : String)
  deriving DecidableEq, Repr

namespace VerbNames

/-- `Returns`, `Ensure`, `Do` and `Out`. -/
def standard : VerbNames := ⟨"Returns", "Ensure", "Do", "Out"⟩

def prefixed (p : String) : VerbNames :=
  ⟨p ++ standard.returns, p ++ standard.ensure, p ++ standard.act, p ++ standard.out⟩

/-- The name of a verb. -/
def nameOf (t : VerbNames) : Verb → String
  | .returns => t.returns
  | .ensure => t.ensure
  | .act => t.act
  | .out => t.out

/-- The first verb, in table order, called `name`. -/
def lookup (t : VerbNames) (name : String) : Option Verb :=
  Verb.all.find? fun v => t.nameOf v = name

def nameFault? (t : VerbNames) (v : Verb) : Option SettingsError :=
  let name := t.nameOf v
  if name.isEmpty then some (.emptyVerb v)
  else if !Text.isIdentifier name then some (.invalidVerbName v name)
  else none

def clash? (t : VerbNames) : Option SettingsError :=
  (Verb.pairs.find? fun (a, b) => t.nameOf a = t.nameOf b).map fun (a, b) =>
    .duplicateVerb a b (t.nameOf a)

def validate (t : VerbNames) : Except SettingsError Unit :=
  match Verb.all.findSome? t.nameFault? with
  | some e => .error e
  | none =>
    match t.clash? with
    | some e => .error e
    | none => .ok ()

end VerbNames

end Understudy
