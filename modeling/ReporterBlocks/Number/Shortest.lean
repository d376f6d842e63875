import ReporterBlocks.Number.Double

/-!
# Fewest digits

The decimal numbers that read back as a given double fill an interval around it. `shortest` finds
the coarsest decimal grid with a point in that interval, and on it the point closest to the double,
the upper one of two that are equally close.
-/

namespace ReporterBlocks

/-- The decimal number `digits * 10 ^ exponent`. -/
structure Decimal where
  digits : Nat
  exponent : Int
  deriving DecidableEq, Repr

namespace Decimal

/-- A positive number and the interval of numbers that round to it, over one denominator. -/
structure Target where
  value : Nat
  low : Nat
  high : Nat
  den : Nat
  closed : Bool

/-- The interval around `mantissa * 2 ^ exponent`: half a step up, and half a step down or a quarter
of one where the steps below are half as wide. Its ends belong to it when the mantissa is even. -/
def Target.ofDouble (mantissa : Nat) (exponent : Int) : Target :=
  let narrow := mantissa = Double.fullMantissa ∧ Double.minExponent < exponent
  let scale := Nat.pow 2 (exponent - 2).toNat
  { value := 4 * mantissa * scale
    low := (4 * mantissa - if narrow then 1 else 2) * scale
    high := (4 * mantissa + 2) * scale
    den := Nat.pow 2 (2 - exponent).toNat
    closed := mantissa % 2 = 0 }

namespace Target

/-- The same numbers in units of `10 ^ k`. -/
def rescale (t : Target) (k : Int) : Target :=
  let up := Nat.pow 10 (-k).toNat
  { t with
    value := t.value * up
    low := t.low * up
    high := t.high * up
    den := t.den * Nat.pow 10 k.toNat }

def admits (t : Target) (n : Nat) : Bool :=
  if t.closed then t.low ≤ n * t.den && n * t.den ≤ t.high
  else t.low < n * t.den && n * t.den < t.high

/-- The integer closest to the value among the two around it that the interval admits. -/
def integer? (t : Target) : Option Nat :=
  let n := t.value / t.den
  match t.admits n, t.admits (n + 1) with
  | true, true => some (if 2 * t.value < (2 * n + 1) * t.den then n else n + 1)
  | true, false => some n
  | false, true => some (n + 1)
  | false, false => none

/-- The exponent of the first digit of the value. Every double is above `10 ^ -340`. -/
def firstExponent (t : Target) : Int :=
  (Nat.toDigits 10 (t.value * Nat.pow 10 340 / t.den)).length - 341

end Target

/-- Moves trailing zeros into the exponent. -/
def trimZeros : Nat → Decimal → Decimal
  | 0, d => d
  | fuel + 1, d =>
    if d.digits % 10 = 0 then trimZeros fuel ⟨d.digits / 10, d.exponent + 1⟩ else d

/-- The shortest decimal that reads back as `mantissa * 2 ^ exponent`; seventeen digits always
do. -/
def shortest (mantissa : Nat) (exponent : Int) : Decimal :=
  if mantissa = 0 then ⟨0, 0⟩
  else
    let t := Target.ofDouble mantissa exponent
    let first := t.firstExponent
    let grid (count : Nat) : Option Decimal :=
      let k := first - count
      (t.rescale k).integer?.map fun n => ⟨n, k⟩
    trimZeros 17 (((List.range 17).findSome? grid).getD ⟨0, 0⟩)

/-- The digits alone, without sign or point. -/
def digitText (d : Decimal) : List Char := Nat.toDigits 10 d.digits

end Decimal

end ReporterBlocks
