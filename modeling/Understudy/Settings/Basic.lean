import Understudy.Settings.Verbs

set_option autoImplicit false

/-!
# Session settings

A session is configured by its verb names, by whether member surfaces are cached, and by what a
receiver does with a call that no arrangement matches: fail, or hand the call back to the proxy.
-/

namespace Understudy

/-- What happens to a call that no arrangement matches. -/
inductive Unmatched where
  /-- Report the call as an error. -/
  | fail
  /-- Let the proxy run the member's own behaviour or give a default. -/
  | fallThrough
  deriving DecidableEq, Repr

/-- Settings of one session. -/
structure Settings where
  verbs : VerbNames
  cacheSurfaces : Bool
  unmatched : Unmatched
  deriving DecidableEq, Repr

namespace Settings

/-- Standard verb names, caching on, unmatched calls fail. -/
def standard : Settings := ⟨VerbNames.standard, true, .fail⟩

def validate (s : Settings) : Except SettingsError Unit := s.verbs.validate

end Settings

def SettingsError.message? : SettingsError → Option String
  | .unreadable | .malformed => none
  | .emptyVerb v => some s!"verb '{v.label}' has an empty name"
  | .invalidVerbName v name =>
    some s!"verb '{v.label}' has name '{name}', which is not a valid member identifier"
  | .duplicateVerb a b name =>
    some s!"verbs '{a.label}' and '{b.label}' share the name '{name}'"

end Understudy
