import Understudy.Dump.Basic
import Understudy.Value.Text
import Understudy.Settings.Basic

set_option autoImplicit false

/-!
# Dumps of values and settings

Values dump as their variant with the payload: doubles in the plain float style (`Float(1)`,
`Float(-0)`), text quoted and escaped, instances as `#type@id`, and a mock node as `node` and the
node's name. Type ids dump as `TypeId(n)`.
-/

namespace Understudy

def TypeId.dump (t : TypeId) : Dump := Dump.lit s!"TypeId({t.raw.toNat})"

def Value.dump : Value → Dump
  | .null => Dump.lit "Null"
  | .bool b => Dump.lit s!"Bool({b})"
  | .int i => Dump.lit s!"Int({i.toInt})"
  | .float x => Dump.lit ("Float(" ++ Decimal.FloatStyle.plain.render x ++ ")")
  | .str s => Dump.tuple "Str" [Dump.quoted s]
  | .obj o => Dump.lit ("Object(" ++ o.text ++ ")")
  | .mock n => Dump.lit "Mock(node " ++ Dump.node n ++ Dump.lit ")"

def Unmatched.dump : Unmatched → Dump
  | .fail => Dump.lit "Fail"
  | .fallThrough => Dump.lit "FallThrough"

def VerbNames.dump (t : VerbNames) : Dump :=
  Dump.record "VerbTable" [("returns", Dump.quoted t.returns), ("ensure", Dump.quoted t.ensure),
    ("do_", Dump.quoted t.act), ("out", Dump.quoted t.out)] false

def Settings.dump (s : Settings) : Dump :=
  Dump.record "MockSettings" [("verbs", s.verbs.dump),
    ("cache_surfaces", Dump.lit (toString s.cacheSurfaces)),
    ("unmatched_calls", s.unmatched.dump)] false

end Understudy
