import Understudy.Surface.Basic
import Understudy.Json.Write

set_option autoImplicit false

/-!
# JSON views of surfaces

Surfaces, their entries and override signatures rendered as JSON documents, for tools that
inspect what a stand-in of a type would intercept. Type ids are written as numbers; a surface
also states whether a stand-in can be built, as `true` or as the reason it cannot.
-/

namespace Understudy

def TypeId.toJson (t : TypeId) : Json := Json.nat t.raw.toNat

def typeIdsJson (ts : List TypeId) : Json := .arr (ts.map TypeId.toJson)

/-- `class`, `interface` or `value`. -/
def TypeKind.name : TypeKind → String
  | .classType => "class"
  | .interfaceType => "interface"
  | .valueType => "value"

def Param.toJson (p : Param) : Json :=
  .obj [("name", .str p.name), ("type", p.type.toJson), ("out", .bool p.isOut)]

def paramsJson (ps : List Param) : Json := .arr (ps.map Param.toJson)

def MethodEntry.toJson (m : MethodEntry) : Json :=
  .obj [("declaring_type", m.declaring.toJson), ("name", .str m.name),
    ("generic_arity", Json.nat m.genericArity), ("params", paramsJson m.params),
    ("return_type", m.returns.toJson), ("is_abstract", .bool m.isAbstract)]

def PropertyEntry.toJson (p : PropertyEntry) : Json :=
  .obj [("declaring_type", p.declaring.toJson), ("name", .str p.name), ("type", p.type.toJson),
    ("readable", .bool p.readable), ("writable", .bool p.writable),
    ("is_abstract", .bool p.isAbstract)]

def IndexerEntry.toJson (i : IndexerEntry) : Json :=
  .obj [("declaring_type", i.declaring.toJson), ("params", paramsJson i.params),
    ("type", i.type.toJson), ("readable", .bool i.readable), ("writable", .bool i.writable)]

def EventEntry.toJson (e : EventEntry) : Json :=
  .obj [("declaring_type", e.declaring.toJson), ("name", .str e.name),
    ("handler_params", typeIdsJson e.handlerParams)]

def FieldEntry.toJson (f : FieldEntry) : Json :=
  .obj [("declaring_type", f.declaring.toJson), ("name", .str f.name), ("type", f.type.toJson)]

def Entries.jsonFields (e : Entries) : List (String × Json) :=
  [("methods", .arr (e.methods.map MethodEntry.toJson)),
    ("properties", .arr (e.properties.map PropertyEntry.toJson)),
    ("indexers", .arr (e.indexers.map IndexerEntry.toJson)),
    ("events", .arr (e.events.map EventEntry.toJson))]

def Surface.toJson (s : Surface) (synthesis : ProxyFault → Json) : Json :=
  .obj ([("base_type", s.baseType.toJson), ("type_name", .str s.typeName),
    ("kind", .str s.kind.name)] ++ s.own.jsonFields ++
    [("interfaces", .arr (s.interfaceSets.map fun i =>
        .obj ([("interface", i.iface.toJson)] ++ i.entries.jsonFields))),
    ("implemented_interfaces", typeIdsJson s.implemented),
    ("settable_properties", .arr (s.settableProperties.map PropertyEntry.toJson)),
    ("settable_fields", .arr (s.settableFields.map FieldEntry.toJson)),
    ("inaccessible_abstract", .arr (s.inaccessibleAbstract.map .str)),
    ("is_sealed", .bool s.isSealed), ("has_reachable_constructor", .bool s.hasReachableCtor),
    ("has_inaccessible_abstract", .bool s.hasInaccessibleAbstract),
    ("member_count", Json.nat s.memberCount),
    ("synthesizable", match s.checkProxyable with
      | .ok () => .bool true
      | .error e => synthesis e)])

def Signature.toJson : Signature → Json
  | .method n a ps =>
    .obj [("method", .obj [("name", .str n), ("generic_arity", Json.nat a), ("params", typeIdsJson ps)])]
  | .property n => .obj [("property", .obj [("name", .str n)])]
  | .indexer ps r w =>
    .obj [("indexer", .obj [("params", typeIdsJson ps), ("readable", .bool r), ("writable", .bool w)])]
  | .event n => .obj [("event", .obj [("name", .str n)])]

end Understudy
