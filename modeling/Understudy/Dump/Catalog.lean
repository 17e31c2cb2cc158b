import Understudy.Dump.Value

set_option autoImplicit false

/-!
# Dumps of type descriptions

A description dumps as a record of its parts. Modifier sets dump as their set flags joined by
` | ` in declaration order, or `0x0` when none is set.
-/

namespace Understudy

def flagsDump (name : String) (flags : List (String × Bool)) : Dump :=
  let set := (flags.filter (·.2)).map (·.1)
  Dump.lit (name ++ "(" ++ (if set.isEmpty then "0x0" else " | ".intercalate set) ++ ")")

def TypeMods.dump (m : TypeMods) : Dump :=
  flagsDump "TypeFlags" [("SEALED", m.sealed), ("ABSTRACT", m.abstract)]

def MemberMods.dump (m : MemberMods) : Dump :=
  flagsDump "MemberFlags" [("ABSTRACT", m.abstract), ("VIRTUAL", m.virtual),
    ("OVERRIDE", m.override), ("SEALED", m.sealed), ("STATIC", m.static),
    ("READONLY", m.readonly)]

def TypeKind.dump : TypeKind → Dump
  | .classType => Dump.lit "Class"
  | .interfaceType => Dump.lit "Interface"
  | .valueType => Dump.lit "Value"

def Visibility.dump : Visibility → Dump
  | .pub => Dump.lit "Public"
  | .prot => Dump.lit "Protected"
  | .protInternal => Dump.lit "ProtectedInternal"
  | .internal => Dump.lit "Internal"
  | .privProt => Dump.lit "PrivateProtected"
  | .priv => Dump.lit "Private"

def boolDump (b : Bool) : Dump := Dump.lit (toString b)

def natDump (n : Nat) : Dump := Dump.lit (toString n)

def Param.dump (p : Param) : Dump :=
  Dump.record "ParamInfo" [("name", Dump.quoted p.name), ("ty", p.type.dump),
    ("is_out", boolDump p.isOut)] false

def Accessor.dump : Accessor → Dump
  | .property n => Dump.tuple "Property" [Dump.quoted n]
  | .event n => Dump.tuple "Event" [Dump.quoted n]

def Shape.dump : Shape → Dump
  | .method n ps r a => Dump.record "Method" [("generic_arity", natDump n),
      ("params", Dump.list (ps.map Param.dump)), ("return_type", r.dump),
      ("accessor_of", Dump.option Accessor.dump a)] false
  | .property t r w => Dump.record "Property" [("ty", t.dump), ("readable", boolDump r),
      ("writable", boolDump w)] false
  | .indexer ps t r w => Dump.record "Indexer" [("params", Dump.list (ps.map Param.dump)),
      ("ty", t.dump), ("readable", boolDump r), ("writable", boolDump w)] false
  | .event hs => Dump.record "Event" [("handler_params", Dump.list (hs.map TypeId.dump))] false
  | .field t => Dump.record "Field" [("ty", t.dump)] false

def Member.dump (m : Member) : Dump :=
  Dump.record "MemberDecl" [("name", Dump.quoted m.name), ("kind", m.shape.dump),
    ("accessibility", m.visibility.dump), ("flags", m.mods.dump)] false

def Ctor.dump (k : Ctor) : Dump :=
  Dump.record "ConstructorDecl" [("accessibility", k.visibility.dump),
    ("params", Dump.list (k.params.map Param.dump))] false

def TypeDesc.dump (d : TypeDesc) : Dump :=
  Dump.record "TypeDef" [("name", Dump.quoted d.name), ("kind", d.kind.dump),
    ("flags", d.mods.dump), ("base", Dump.option TypeId.dump d.base),
    ("interfaces", Dump.list (d.interfaces.map TypeId.dump)),
    ("members", Dump.list (d.members.map Member.dump)),
    ("constructors", Dump.list (d.ctors.map Ctor.dump))] false

end Understudy
