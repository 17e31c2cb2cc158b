import Understudy.Dump.Value
import Understudy.Mock.Proxy

set_option autoImplicit false

/-!
# Dumps of mock objects

Patterns dump by variant (`Value(Int(1))`, `Predicate(#6)`, `Any(Some(TypeId(4)))`); a list
predicate shows its declared types. Objects that hold code or shared state show only their
identifying fields and mark the rest as left out: a callback its parameter types, an arranged call
its member, patterns and call count, a node its member count, a receiver its node and policy, a
stand-in its type name and receiver, a session its settings, root names and cached surface count.
-/

namespace Understudy

def ArgPattern.dump : ArgPattern → Dump
  | .value v => Dump.tuple "Value" [v.dump]
  | .predicate t _ => Dump.lit ("Predicate(" ++ t.text ++ ")")
  | .any t => Dump.tuple "Any" [Dump.option TypeId.dump t]

def ArgsPattern.dump : ArgsPattern → Dump
  | .positional items => Dump.list (items.map ArgPattern.dump)
  | .predicate types _ => Dump.tuple "Predicate" [Dump.list (types.map TypeId.dump)]

def Callback.dump (cb : Callback) : Dump :=
  Dump.record "Callback" [("params", Dump.list (cb.paramTypes.map TypeId.dump))] true

def Expectation.dump (x : Expectation) : Dump :=
  Dump.record "ExpectationNode" [("member", Dump.quoted x.member), ("args", x.args.dump),
    ("calls", Dump.lit (toString x.calls))] true

def Graph.dumpNode (g : Graph) (n : NodeId) : Dump :=
  Dump.record "MockNode" [("id", Dump.node n),
    ("members", Dump.lit (toString (g.node n).members.length))] true

def Receiver.dump (r : Receiver) : Dump :=
  Dump.record "Dispatcher" [("node", Dump.node r.node), ("policy", r.policy.dump)] true

def Proxy.dump (p : Proxy) : Dump :=
  Dump.record "DynamicProxy" [("type_name", Dump.quoted p.surface.typeName),
    ("dispatcher", p.receiver.dump)] true

def Session.dump (s : Session) : Dump :=
  Dump.record "MockContext" [("settings", s.settings.dump),
    ("roots", Dump.list (s.rootNames.map Dump.quoted)),
    ("cached_surfaces", Dump.lit (toString s.cache.size))] true

end Understudy
