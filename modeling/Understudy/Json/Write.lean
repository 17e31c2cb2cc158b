import Understudy.Json.Basic

/-!
# Writing JSON text

Compact text: no blanks, fields in their order, numbers as written. In strings the quote and
the backslash are escaped, control characters take their short escape or `\u00XX`, and every
other character stands as itself.
-/

namespace Understudy

namespace Numeral

def render (n : Numeral) : String :=
  (if n.negative then "-" else "") ++ n.whole ++
    (match n.fraction with | some f => "." ++ f | none => "") ++
    (match n.exponent with | some e => "e" ++ toString e | none => "")

/-- The numeral of a natural number. -/
def ofNat (n : Nat) : Numeral := ⟨false, toString n, none, none⟩

def ofInt (i : Int) : Numeral := ⟨i < 0, toString i.natAbs, none, none⟩

end Numeral

namespace Json

def hex2 (n : Nat) : String :=
  let digit (d : Nat) : Char := if d < 10 then Char.ofNat (48 + d) else Char.ofNat (87 + d)
  String.ofList [digit (n / 16 % 16), digit (n % 16)]

def escapeChar (c : Char) : String :=
  if c = '"' then "\\\""
  else if c = '\\' then "\\\\"
  else if c = '\n' then "\\n"
  else if c = '\r' then "\\r"
  else if c = '\t' then "\\t"
  else if c.toNat = 8 then "\\b"
  else if c.toNat = 12 then "\\f"
  else if c.toNat < 0x20 then "\\u00" ++ hex2 c.toNat
  else c.toString

def quote (s : String) : String :=
  "\"" ++ String.join (s.toList.map escapeChar) ++ "\""

mutual

def render : Json → String
  | .null => "null"
  | .bool true => "true"
  | .bool false => "false"
  | .number n => n.render
  | .str s => quote s
  | .arr items => "[" ++ renderItems items ++ "]"
  | .obj fields => "\x7b" ++ renderFields fields ++ "\x7d"
  | .unpairedSurrogate => quote "\uFFFD"

def renderItems : List Json → String
  | [] => ""
  | [v] => render v
  | v :: rest => render v ++ "," ++ renderItems rest

def renderFields : List (String × Json) → String
  | [] => ""
  | [(k, v)] => quote k ++ ":" ++ render v
  | (k, v) :: rest => quote k ++ ":" ++ render v ++ "," ++ renderFields rest

end

def nat (n : Nat) : Json := .number (Numeral.ofNat n)

/-- The document of an integer. -/
def int (i : Int) : Json := .number (Numeral.ofInt i)

def field? (j : Json) (key : String) : Option Json :=
  match j with
  | .obj fields => (fields.reverse.find? (·.1 = key)).map (·.2)
  | _ => none

def dedupFields (fields : List (String × Json)) : List (String × Json) :=
  fields.foldl (fun acc (k, v) =>
    if acc.any (·.1 = k) then acc.map (fun (k0, v0) => if k0 = k then (k0, v) else (k0, v0))
    else acc ++ [(k, v)]) []

mutual

def lastWins : Json → Json
  | .arr items => .arr (lastWinsItems items)
  | .obj fields => .obj (dedupFields (lastWinsFields fields))
  | j => j

def lastWinsItems : List Json → List Json
  | [] => []
  | j :: rest => lastWins j :: lastWinsItems rest

def lastWinsFields : List (String × Json) → List (String × Json)
  | [] => []
  | (k, j) :: rest => (k, lastWins j) :: lastWinsFields rest

end

end Json

end Understudy
