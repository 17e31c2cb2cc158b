/-!
# Shortest decimal digits of a double

Every finite double is an integer multiple of `2 ^ -1074`; here values and the bounds of their
rounding interval are counted in quarters of that step, `2 ^ -1076`, so that every quantity is a
natural number. The interval holds the reals that round to the double: half a unit of the last
place on each side (a quarter below when the significand is a power of two and a smaller binade
lies below), ends included exactly when the significand is even.

`shortest` tries 1, 2, … 17 significant digits. On each grid it takes the two grid points that
enclose the value; the first grid with a point inside the interval wins, of two points the nearer,
and an exact tie goes to the upper one. Seventeen digits always suffice for a double.
-/

namespace Understudy.Decimal

/-- Significant decimal digits `d₁ d₂ …` (first and last non-zero) and the exponent `e` of
`d₁.d₂… × 10 ^ e`. -/
structure Digits where
  digits : List Nat
  exponent : Int
  deriving DecidableEq, Repr

/-- The parts of a double's bits. -/
structure Parts where
  negative : Bool
  biased : Nat
  fraction : Nat
  deriving DecidableEq, Repr

def Parts.ofFloat (x : Float) : Parts :=
  let b := x.toBits.toNat
  ⟨b / Nat.pow 2 63 % 2 = 1, b / Nat.pow 2 52 % Nat.pow 2 11, b % Nat.pow 2 52⟩

def Parts.magnitude (p : Parts) : Nat :=
  if p.biased = 0 then p.fraction else (Nat.pow 2 52 + p.fraction) * Nat.pow 2 (p.biased - 1)

def Parts.unit (p : Parts) : Nat :=
  if p.biased = 0 then 1 else Nat.pow 2 (p.biased - 1)

/-- The value `v` and its rounding interval `(lo, hi)`, in steps of `2 ^ -1076`, and whether the
ends belong to the interval. -/
structure Interval where
  value : Nat
  lo : Nat
  hi : Nat
  closed : Bool

def Parts.interval (p : Parts) : Interval :=
  let v := 4 * p.magnitude
  let below := if p.fraction = 0 && p.biased > 1 then p.unit else 2 * p.unit
  ⟨v, v - below, v + 2 * p.unit, p.fraction % 2 = 0⟩

/-- The quantity `2 ^ 1076`: one, in steps of `2 ^ -1076`. -/
def one : Nat := Nat.pow 2 1076

def compareGrid (c : Nat) (k : Int) (x : Nat) : Ordering :=
  if 0 ≤ k then compare (c * Nat.pow 10 k.toNat * one) x
  else compare (c * one) (x * Nat.pow 10 k.natAbs)

/-- Whether `c * 10 ^ k` lies in the interval. -/
def Interval.holds (i : Interval) (c : Nat) (k : Int) : Bool :=
  let above := compareGrid c k i.lo
  let under := compareGrid c k i.hi
  if i.closed then above != .lt && under != .gt else above == .gt && under == .lt

def gridFloor (v : Nat) (k : Int) : Nat :=
  if 0 ≤ k then v / (Nat.pow 10 k.toNat * one) else v * Nat.pow 10 k.natAbs / one

def leadingExponent (v : Nat) : Int :=
  if one ≤ v then ((Nat.toDigits 10 (v / one)).length : Int) - 1
  else
    match (List.range 340).find? (fun j => one ≤ v * Nat.pow 10 (j + 1)) with
    | some j => -((j : Int) + 1)
    | none => -340

def Digits.ofGrid (c : Nat) (k : Int) : Digits :=
  let ds := (Nat.toDigits 10 c).map fun ch => ch.toNat - '0'.toNat
  let trimmed := (ds.reverse.dropWhile (· = 0)).reverse
  ⟨trimmed, k + ds.length - 1⟩

def Interval.pick (i : Interval) (k : Int) : Option Nat :=
  let c := gridFloor i.value k
  let low := i.holds c k
  let high := i.holds (c + 1) k
  if low && high then
    -- the nearer of the two, the upper one on a tie
    if compareGrid (2 * c + 1) k (2 * i.value) == .gt then some c else some (c + 1)
  else if low then some c
  else if high then some (c + 1)
  else none

def shortest (x : Float) : Option Digits :=
  let p := Parts.ofFloat x
  if p.biased = 2047 || p.magnitude = 0 then none
  else
    let i := p.interval
    let e := leadingExponent i.value
    let grids := (List.range 17).map fun (n : Nat) => e - n
    grids.findSome? fun k => (i.pick k).map fun c => Digits.ofGrid c k

end Understudy.Decimal
