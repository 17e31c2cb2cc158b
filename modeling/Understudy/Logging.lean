import Understudy.Text.Words

set_option autoImplicit false

/-!
# Log configuration

Diagnostics are configured from three variables: a filter (the engine's own variable, else the
general one; an empty value still counts as set), and a format name. Format names are keywords:
`tree` and `json` choose those formats and anything else is plain text. Output goes to the error
stream unless it is captured by the test harness.

Installing a configuration succeeds only when it has a filter and no subscriber is installed yet.
-/

namespace Understudy

/-- How log lines look. -/
inductive LogFormat where
  | text
  | tree
  | json
  deriving DecidableEq, Repr

def LogFormat.parse (name : String) : LogFormat :=
  match Text.keyword name with
  | "tree" => .tree
  | "json" => .json
  | _ => .text

/-- Where log lines go. -/
inductive LogSink where
  | stderr
  | testCapture
  deriving DecidableEq, Repr

/-- A log configuration. -/
structure LogConfig where
  filter : Option String
  format : LogFormat
  sink : LogSink
  deriving DecidableEq, Repr

namespace LogConfig

def ofVars (ownFilter generalFilter format : Option String) : LogConfig :=
  { filter := ownFilter.orElse fun _ => generalFilter
    format := match format with
      | some f => LogFormat.parse f
      | none => .text
    sink := .stderr }

def capturedByTests (c : LogConfig) : LogConfig := { c with sink := .testCapture }

def install (c : LogConfig) (alreadyInstalled : Bool) : Bool :=
  c.filter.isSome && !alreadyInstalled

end LogConfig

end Understudy
