import Understudy.Json.Read
import Understudy.Decimal.Stepwise

/-!
# What number a numeral is

A plain integer whose digits fit 64 bits is an integer: unsigned when it has no sign, signed when
it is negative and fits. Everything else is a double: a point or an exponent, an integer too
large for 64 bits, a negative integer below the signed range, and `-0`, which as an integer would
lose its sign.

Doubles are read the fast way (`Decimal.Stepwise`): the digits are taken into a significand while
it stays below `2 ^ 64`. An integer digit that no longer fits, and every integer digit after it,
raises the power of ten instead; the first fraction digit that does not fit ends the digits that
count. The exponent is a 32-bit quantity: one whose digits exceed that range makes the value a
signed zero when it is negative or the significand is zero, and is out of range otherwise; the
sum of the exponents saturates at the 32-bit bounds. A value that overflows is out of range.

`Json.readStrict?` reads a document the way a reader into machine values does: it refuses a
number out of range, a string that is not text, and arrays or objects nested 128 deep.
-/

namespace Understudy

/-- How a numeral reads as a machine number. -/
inductive NumeralKind where
  | unsigned (n : UInt64)
  | signed (i : Int64)
  | double (x : Float)

namespace Numeral

def significandBound : Nat := Nat.pow 2 64

def exponentLimit : Nat := 2147483647

def saturate (e : Int) : Int := max (-(exponentLimit : Int) - 1) (min exponentLimit e)

def digitList (s : String) : List Nat := s.toList.map fun c => c.toNat - '0'.toNat

def takeWhole : Nat → Nat → List Nat → Nat × Nat
  | sig, skipped, [] => (sig, skipped)
  | sig, skipped, d :: ds =>
    if skipped = 0 && sig * 10 + d < significandBound then takeWhole (sig * 10 + d) 0 ds
    else takeWhole sig (skipped + 1) ds

def takeFraction : Nat → Int → List Nat → Nat × Int
  | sig, e, [] => (sig, e)
  | sig, e, d :: ds =>
    if sig * 10 + d < significandBound then takeFraction (sig * 10 + d) (e - 1) ds else (sig, e)

def signedDouble (negative : Bool) (bits : UInt64) : Float :=
  let x := Float.ofBits bits
  if negative then -x else x

def fastDouble? (n : Numeral) : Option Float :=
  let (sig, skipped) := takeWhole 0 0 (digitList n.whole)
  let (sig, e) := takeFraction sig skipped (digitList (n.fraction.getD ""))
  let finish (e : Int) : Option Float :=
    (Decimal.stepwiseBits sig e).map (signedDouble n.negative)
  match n.exponent with
  | none => finish e
  | some x =>
    if x.natAbs > exponentLimit then
      if sig ≠ 0 && 0 < x then none else some (signedDouble n.negative 0)
    else finish (saturate (e + x))

/-- The machine number the numeral reads as; `none` when it is a double out of range. -/
def kind? (n : Numeral) : Option NumeralKind :=
  let (sig, skipped) := takeWhole 0 0 (digitList n.whole)
  if !n.isInteger || skipped ≠ 0 then n.fastDouble?.map .double
  else if !n.negative then some (.unsigned (UInt64.ofNat sig))
  else if sig = 0 || sig > Nat.pow 2 63 then
    some (.double (signedDouble true (Decimal.nearestBits sig 1)))
  else some (.signed (Int64.ofInt (-(sig : Int))))

def inRange (n : Numeral) : Bool := n.kind?.isSome

def toDouble? (n : Numeral) : Option Float :=
  n.kind?.map fun
    | .unsigned u => Float.ofBits (Decimal.nearestBits u.toNat 1)
    | .signed i => signedDouble true (Decimal.nearestBits i.toInt.natAbs 1)
    | .double x => x

def toInt64? (n : Numeral) : Option Int64 :=
  match n.kind? with
  | some (.unsigned u) => if u.toNat < Nat.pow 2 63 then some (Int64.ofNat u.toNat) else none
  | some (.signed i) => some i
  | _ => none

def toUInt64? (n : Numeral) : Option UInt64 :=
  match n.kind? with
  | some (.unsigned u) => some u
  | _ => none

end Numeral

namespace Json

mutual

def machineReadable : Json → Bool
  | .number n => n.inRange
  | .unpairedSurrogate => false
  | .arr items => itemsReadable items
  | .obj fields => fieldsReadable fields
  | _ => true

def itemsReadable : List Json → Bool
  | [] => true
  | v :: rest => machineReadable v && itemsReadable rest

def fieldsReadable : List (String × Json) → Bool
  | [] => true
  | (_, v) :: rest => machineReadable v && fieldsReadable rest

end

def strictRoom : Nat := 128

def readStrict? (s : String) : Option Json :=
  (readWithin? strictRoom s).filter machineReadable

end Json

end Understudy
