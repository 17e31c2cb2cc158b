import Understudy.Surface.Basic
import Understudy.Settings.Basic

set_option autoImplicit false

/-!
# Faults of the mock engine

Arrangement faults are reported as soon as a malformed arrangement is made; dispatch faults while
a call from code under test is handled; a verification failure lists every unmet path at once.
Each fault has the one-line message users see.
-/

namespace Understudy

/-- What a member name holds, as messages name it. -/
inductive EntryKind where
  | child
  | methods
  | property
  deriving DecidableEq, Repr

/-- `a child object`, `a method` or `a property value`. -/
def EntryKind.text : EntryKind → String
  | .child => "a child object"
  | .methods => "a method"
  | .property => "a property value"

/-- Where an out value is written: a position or every argument of a name. -/
inductive OutKey where
  | index (i : Nat)
  | name (n : String)
  deriving DecidableEq, Repr

/-- `index 2` or `name "n"`. -/
def OutKey.text : OutKey → String
  | .index i => s!"index {i}"
  | .name n => "name \"" ++ n ++ "\""

/-- A malformed arrangement. -/
inductive ArrangeFault where
  | returnsAlreadySet (member : String)
  | duplicateOut (member : String) (key : OutKey)
  | verbArguments (verb expected actual : String)
  | notChainable (member : String)
  | memberKindConflict (member : String) (existing requested : EntryKind)
  | callbackAsArgument (member : String)
  deriving DecidableEq, Repr

def ArrangeFault.message : ArrangeFault → String
  | .returnsAlreadySet m => s!"return value for '{m}' is already set"
  | .duplicateOut m k => s!"out value for '{m}' is already set for " ++ k.text
  | .verbArguments v e a => s!"verb '{v}' expects {e}, got {a}"
  | .notChainable m => s!"cannot chain through '{m}': it returns a plain value"
  | .memberKindConflict m e r =>
    s!"member '{m}' is already arranged as {e.text}, cannot use it as {r.text}"
  | .callbackAsArgument m => s!"a callback cannot be used as an argument matcher of '{m}'"

/-- A failure while a call from code under test is handled. -/
inductive DispatchFault where
  | callbackMismatch (member : String) (position : Nat) (expected actual : String)
  | callbackArity (member : String) (expected actual : Nat)
  | callbackFailed (member message : String)
  | unanticipated (member args : String)
  | unknownMember (typeName member : String)
  | returnMismatch (member expected actual : String)
  deriving DecidableEq, Repr

def DispatchFault.message : DispatchFault → String
  | .callbackMismatch m p e a => s!"callback on '{m}' expects {e} at parameter {p}, got {a}"
  | .callbackArity m e a => s!"callback on '{m}' takes {e} arguments, call supplied {a}"
  | .callbackFailed m msg => s!"callback on '{m}' failed: {msg}"
  | .unanticipated m a => s!"unanticipated call: {m}({a})"
  | .unknownMember t m => s!"'{t}' has no member '{m}' matching this call"
  | .returnMismatch m e a => s!"'{m}' returns {e}, arranged result is {a}"

/-- Every unmet path of a verification, in walk order. -/
structure Unmet where
  paths : List String
  deriving DecidableEq, Repr

def Unmet.message (u : Unmet) : String :=
  s!"{u.paths.length} expectation(s) not met:\n  " ++ "\n  ".intercalate u.paths

/-- Any fault a session operation can end in. -/
inductive MockFault where
  | surface (e : SurfaceFault)
  | synthesis (e : ProxyFault)
  | settings (e : SettingsError)
  | arrange (e : ArrangeFault)
  | dispatch (e : DispatchFault)
  | verification (e : Unmet)
  | unknownMock (name : String)
  deriving DecidableEq, Repr

def MockFault.message? : MockFault → Option String
  | .surface e => some e.message
  | .synthesis e => some e.message
  | .settings e => e.message?
  | .arrange e => some e.message
  | .dispatch e => some e.message
  | .verification e => some e.message
  | .unknownMock n => some s!"no mock named '{n}' in this context"

end Understudy
