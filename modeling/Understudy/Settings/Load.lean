import Understudy.Settings.Basic
import Understudy.Json.Read
import Understudy.Json.Write
import Understudy.Text.Words

set_option autoImplicit false

/-!
# Settings as JSON

A settings document is an object whose known keys are optional (`verbs`, `cacheSurfaces`,
`unmatchedCalls`; unknown keys are skipped, a repeated known key is refused), or an array giving
the same fields in that order, possibly fewer. Verb tables are read the same way with the keys
`returns`, `ensure`, `do` and `out`, each a string. Caching is a boolean, or a string that reads
as one after trimming and ignoring case (`true`, `1`, `yes`, `on` and `false`, `0`, `no`, `off`).
The policy is `"fail"` or `"fallThrough"`, or an object holding that name alone with `null`.

A document that cannot be read this way is `malformed`; one that reads is then validated.
-/

namespace Understudy

namespace Json

def recordFields (names : List String) : Json → Option (List (Option Json))
  | .obj fields =>
    fields.foldl (fun acc (k, v) => acc.bind fun vals =>
      match names.idxOf? k with
      | none => some vals
      | some i => match vals[i]? with
        | some (some _) => none
        | _ => some (vals.set i (some v))) (some (names.map fun _ => none))
  | .arr items =>
    if items.length ≤ names.length then
      some (names.zipIdx.map fun (_, i) => items[i]?)
    else none
  | _ => none

end Json

namespace VerbNames

def ofJson? (j : Json) : Option VerbNames := do
  let vals ← Json.recordFields ["returns", "ensure", "do", "out"] j
  let name (i : Nat) (dflt : String) : Option String :=
    match vals[i]? with
    | some (some (.str s)) => some s
    | some (some _) => none
    | _ => some dflt
  pure ⟨← name 0 standard.returns, ← name 1 standard.ensure, ← name 2 standard.act,
    ← name 3 standard.out⟩

def toJson (t : VerbNames) : Json :=
  .obj [("returns", .str t.returns), ("ensure", .str t.ensure), ("do", .str t.act),
    ("out", .str t.out)]

end VerbNames

def switchOfJson? : Json → Option Bool
  | .bool b => some b
  | .str s =>
    let w := Text.keyword s
    if w = "true" || w = "1" || w = "yes" || w = "on" then some true
    else if w = "false" || w = "0" || w = "no" || w = "off" then some false
    else none
  | _ => none

namespace Unmatched

/-- The policy's name. -/
def name : Unmatched → String
  | .fail => "fail"
  | .fallThrough => "fallThrough"

def ofName? (s : String) : Option Unmatched :=
  if s = "fail" then some .fail else if s = "fallThrough" then some .fallThrough else none

def ofJson? : Json → Option Unmatched
  | .str s => ofName? s
  | .obj [(k, .null)] => ofName? k
  | _ => none

end Unmatched

namespace Settings

def ofJson? (j : Json) : Option Settings := do
  let vals ← Json.recordFields ["verbs", "cacheSurfaces", "unmatchedCalls"] j
  let verbs ← match vals[0]? with
    | some (some v) => VerbNames.ofJson? v
    | _ => some standard.verbs
  let cache ← match vals[1]? with
    | some (some v) => switchOfJson? v
    | _ => some standard.cacheSurfaces
  let policy ← match vals[2]? with
    | some (some v) => Unmatched.ofJson? v
    | _ => some standard.unmatched
  pure ⟨verbs, cache, policy⟩

def ofText (text : String) : Except SettingsError Settings :=
  match (Json.read? text).bind ofJson? with
  | none => .error .malformed
  | some s => s.validate.map fun _ => s

def toJson (s : Settings) : Json :=
  .obj [("verbs", s.verbs.toJson), ("cacheSurfaces", .bool s.cacheSurfaces),
    ("unmatchedCalls", .str s.unmatched.name)]

end Settings

end Understudy
