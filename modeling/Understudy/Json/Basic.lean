/-!
# JSON documents

A document keeps what the text says and in the order it says it: object fields are a list of
pairs, so a repeated key is still visible to a reader that must refuse it, and a number keeps its
written parts, so `1`, `1.0` and `-0` stay apart until someone asks what kind of number they are.
A string that is not Unicode text is kept as a marker, for the same reason.

`Numeral.kind` (in `Json.Numeral`) sorts a number into an unsigned or signed 64-bit integer or
a double.
-/

namespace Understudy

/-- A number as written: sign, integer digits, fraction digits and decimal exponent. -/
structure Numeral where
  negative : Bool
  whole : String
  fraction : Option String
  exponent : Option Int
  deriving DecidableEq, Repr

/-- A JSON document. -/
inductive Json where
  | null
  | bool (b : Bool)
  | number (n : Numeral)
  | str (s : String)
  | arr (items : List Json)
  | obj (fields : List (String × Json))
  /-- A string, or an object with such a key, that escapes a surrogate code unit without its
  partner: well-formed JSON but not Unicode text. -/
  | unpairedSurrogate
  deriving Repr, Inhabited

namespace Numeral

def digitsValue (s : String) : Nat :=
  s.foldl (fun acc c => acc * 10 + (c.toNat - '0'.toNat)) 0

def scaled (n : Numeral) : Nat × Int :=
  let frac := n.fraction.getD ""
  (digitsValue (n.whole ++ frac), n.exponent.getD 0 - frac.length)

def isInteger (n : Numeral) : Bool := n.fraction.isNone && n.exponent.isNone

end Numeral

end Understudy
