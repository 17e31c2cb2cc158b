import Understudy.Decimal.Shortest

/-!
# Laying out a double as text

The digits come from `shortest`; a `FloatStyle` decides the rest: which leading-digit exponents are
written positionally, and how many digits must follow the point. Outside the positional band the
text is scientific, `d.ddd` then `e` and the exponent with a minus sign only when negative. NaN
and the infinities are words, and zero keeps its sign.
-/

namespace Understudy.Decimal

/-- How a double is laid out. -/
structure FloatStyle where
  /-- Fewest digits after the point in positional notation. -/
  minFraction : Nat
  /-- Leading-digit exponents `e` written positionally, `lowest ≤ e < highest`; `none` means all. -/
  positional : Option (Int × Int)

/-- Literals in messages and paths: positional from `1e-4` up to below `1e16`, otherwise
scientific, and a point with at least one digit after it. -/
def FloatStyle.literal : FloatStyle := ⟨1, some (-4, 16)⟩

/-- Plain numbers: always positional, no point unless the value has a fraction. -/
def FloatStyle.plain : FloatStyle := ⟨0, none⟩

def digitText (ds : List Nat) : String :=
  String.ofList (ds.map fun d => Char.ofNat ('0'.toNat + d))

def zeros (n : Nat) : List Nat := List.replicate n 0

def positionalText (minFraction : Nat) (d : Digits) : String :=
  let (whole, frac) :=
    if 0 ≤ d.exponent then
      let n := d.exponent.toNat + 1
      (d.digits.take n ++ zeros (n - d.digits.length), d.digits.drop n)
    else ([0], zeros (d.exponent.natAbs - 1) ++ d.digits)
  let frac := frac ++ zeros (minFraction - frac.length)
  digitText whole ++ (if frac.isEmpty then "" else "." ++ digitText frac)

def scientificText (d : Digits) : String :=
  let lead := digitText (d.digits.take 1)
  let rest := d.digits.drop 1
  lead ++ (if rest.isEmpty then "" else "." ++ digitText rest) ++ "e" ++ toString d.exponent

def FloatStyle.isPositional (st : FloatStyle) (e : Int) : Bool :=
  match st.positional with
  | none => true
  | some (lowest, highest) => lowest ≤ e && e < highest

def FloatStyle.render (st : FloatStyle) (x : Float) : String :=
  let p := Parts.ofFloat x
  let sign := if p.negative then "-" else ""
  if p.biased = 2047 then
    if p.fraction = 0 then sign ++ "inf" else "NaN"
  else
    match shortest x with
    | none => sign ++ positionalText st.minFraction ⟨[0], 0⟩
    | some d =>
      sign ++ if st.isPositional d.exponent then positionalText st.minFraction d
        else scientificText d

end Understudy.Decimal
