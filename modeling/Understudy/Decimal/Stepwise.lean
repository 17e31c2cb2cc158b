import Understudy.Decimal.Read

/-!
# Scaling by powers of ten, one rounding per step

A fast reader of decimal numerals keeps at most 64 bits of significand and scales it by a power
of ten in double arithmetic. The significand is rounded to a double, then multiplied or divided
by a double from a table of the powers `10 ^ 0` to `10 ^ 308`, each of them correctly rounded.
A power beyond the table is reached by first dividing by `10 ^ 308`, as often as needed. Every
step rounds once, so the result can miss the correctly rounded value in the last place:
`1.12494311538902e-18` reads as `1.1249431153890199e-18`. A product that overflows is refused,
and so is a power beyond the table that would enlarge a non-zero value.

The arithmetic is exact on the values of doubles, decoded from their bits as `m * 2 ^ q`; each
step rounds once to nearest, ties to an even significand, through `nearestBits`. Only finite,
non-negative doubles occur here.
-/

namespace Understudy.Decimal

def decodeBits (b : UInt64) : Nat × Int :=
  let biased := (b.toNat / Nat.pow 2 52) % 2048
  let fraction := b.toNat % Nat.pow 2 52
  if biased = 0 then (fraction, -1074) else (fraction + Nat.pow 2 52, (biased : Int) - 1075)

def nearestScaled (m : Nat) (q : Int) : UInt64 :=
  if 0 ≤ q then nearestBits (m * Nat.pow 2 q.toNat) 1 else nearestBits m (Nat.pow 2 q.natAbs)

def mulBits (a b : UInt64) : UInt64 :=
  let (ma, qa) := decodeBits a
  let (mb, qb) := decodeBits b
  nearestScaled (ma * mb) (qa + qb)

def divBits (a b : UInt64) : UInt64 :=
  let (ma, qa) := decodeBits a
  let (mb, qb) := decodeBits b
  let q := qa - qb
  if 0 ≤ q then nearestBits (ma * Nat.pow 2 q.toNat) mb
  else nearestBits ma (mb * Nat.pow 2 q.natAbs)

def tablePower : Nat := 308

def powerOfTen (k : Nat) : UInt64 := nearestBits (Nat.pow 10 k) 1

def scaleBits (f : UInt64) (e : Int) : Option UInt64 :=
  if e.natAbs ≤ tablePower then
    if 0 ≤ e then
      let g := mulBits f (powerOfTen e.toNat)
      if g = infinityBits then none else some g
    else some (divBits f (powerOfTen e.natAbs))
  else if f = 0 then some 0
  else if _ : 0 ≤ e then none
  else scaleBits (divBits f (powerOfTen tablePower)) (e + tablePower)
termination_by e.natAbs
decreasing_by simp only [tablePower] at *; omega

def stepwiseBits (sig : Nat) (e : Int) : Option UInt64 :=
  scaleBits (nearestBits sig 1) e

example : stepwiseBits 15 (-1) = some 0x3FF8000000000000 := by decide +kernel

end Understudy.Decimal
