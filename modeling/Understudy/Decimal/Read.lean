/-!
# Reading decimals into doubles

`Decimal.nearestBits` gives the double nearest to a non-negative rational, ties to the even
significand, in exact arithmetic: the quotient is scaled until it has 53 significant bits (fewer
below the normal range), rounded once on the exact remainder, and packed into IEEE binary64 bits.
One rounding on the exact value is what makes the result the correctly rounded one.

`Decimal.readDouble?` reads the text of a floating literal: an optional sign, then digits with an
optional point and exponent, or one of the words `inf`, `infinity` and `nan` in any case.
-/

namespace Understudy.Decimal

def infinityBits : UInt64 := 0x7FF0000000000000

def binaryScale (n d : Nat) : Int :=
  let q : Int := (Nat.log2 n : Int) - (Nat.log2 d : Int) - 52
  let below : Bool :=
    if 0 ≤ q then n < Nat.pow 2 52 * (d * Nat.pow 2 q.toNat)
    else n * Nat.pow 2 q.natAbs < Nat.pow 2 52 * d
  let q := if below then q - 1 else q
  max q (-1074)

def nearestBits (n d : Nat) : UInt64 :=
  if n = 0 then 0 else
  let q := binaryScale n d
  let (num, den) := if 0 ≤ q then (n, d * Nat.pow 2 q.toNat) else (n * Nat.pow 2 q.natAbs, d)
  let m := num / den
  let r := num % den
  let up := 2 * r > den || (2 * r = den && m % 2 = 1)
  let m := if up then m + 1 else m
  let (m, q) := if m = Nat.pow 2 53 then (Nat.pow 2 52, q + 1) else (m, q)
  if m < Nat.pow 2 52 then UInt64.ofNat m
  else
    let biased := q + 1075
    if biased ≥ 2047 then infinityBits
    else UInt64.ofNat (biased.toNat * Nat.pow 2 52 + (m - Nat.pow 2 52))

def digitCount (m : Nat) : Nat := (Nat.toDigits 10 m).length

def toDouble (negative : Bool) (m : Nat) (e : Int) : Float :=
  let bits : UInt64 :=
    if m = 0 then 0
    else if e + digitCount m > 310 then infinityBits
    else if e + digitCount m < -330 then 0
    else if 0 ≤ e then nearestBits (m * Nat.pow 10 e.toNat) 1
    else nearestBits m (Nat.pow 10 e.natAbs)
  let x := Float.ofBits bits
  if negative then -x else x

def spanDigits (cs : List Char) : List Char × List Char :=
  (cs.takeWhile Char.isDigit, cs.dropWhile Char.isDigit)

def digitsValue (ds : List Char) : Nat :=
  ds.foldl (fun acc c => acc * 10 + (c.toNat - '0'.toNat)) 0

def readUnsigned? (cs : List Char) : Option (Nat × Int) :=
  let (whole, rest) := spanDigits cs
  let (frac, rest) := match rest with
    | '.' :: more => spanDigits more
    | _ => ([], rest)
  if whole.isEmpty && frac.isEmpty then none
  else
    let mantissa := digitsValue (whole ++ frac)
    let scale : Int := -(frac.length : Int)
    match rest with
    | [] => some (mantissa, scale)
    | e :: more =>
      if e = 'e' || e = 'E' then
        let (neg, digits) := match more with
          | '+' :: ds => (false, ds)
          | '-' :: ds => (true, ds)
          | ds => (false, ds)
        if digits.isEmpty || !digits.all Char.isDigit then none
        else
          let x : Int := digitsValue digits
          some (mantissa, scale + if neg then -x else x)
      else none

def readDouble? (s : String) : Option Float :=
  let cs := s.toList
  let (negative, body) := match cs with
    | '-' :: rest => (true, rest)
    | '+' :: rest => (false, rest)
    | rest => (false, rest)
  let word := String.ofList (body.map Char.toLower)
  let signed (x : Float) : Float := if negative then -x else x
  if word = "inf" || word = "infinity" then some (signed (Float.ofBits infinityBits))
  else if word = "nan" then some (signed (Float.ofBits 0x7FF8000000000000))
  else (readUnsigned? body).map fun (m, e) => toDouble negative m e

end Understudy.Decimal
