/-!
# Doubles as exact numbers

A finite double is an integer times a power of two. `Double.classify` reads the two off the bits,
and `Double.nearest` goes the other way: the double closest to a quotient, the even one of two that
are equally close.
-/

namespace ReporterBlocks.Double

/-- What the bits of a double stand for. A finite one is `mantissa * 2 ^ exponent`. -/
inductive Class where
  | nan
  | infinite (negative : Bool)
  | finite (negative : Bool) (mantissa : Nat) (exponent : Int)

/-- The exponent of the smallest doubles. -/
def minExponent : Int := -1074

/-- The mantissas from here on are those of full precision. -/
def fullMantissa : Nat := 0x10000000000000

/-- The bit that is set in negative doubles. -/
def signBit : Nat := 0x8000000000000000

def classify (x : Float) : Class :=
  let bits := x.toBits.toNat
  let negative := bits / signBit = 1
  let field := bits / fullMantissa % 2048
  let fraction := bits % fullMantissa
  if field = 2047 then
    if fraction = 0 then .infinite negative else .nan
  else if field = 0 then .finite negative fraction minExponent
  else .finite negative (fullMantissa + fraction) (field + minExponent - 1)

/-- The quotient `num / den` to the nearest integer, a half to the even one. -/
def roundHalfEven (num den : Nat) : Nat :=
  let q := num / den
  let r := 2 * (num % den)
  if r < den then q else if den < r then q + 1 else q + q % 2

/-- The quotient `num / (den * 2 ^ e)` with integers above and below. -/
def scaleBy (num den : Nat) (e : Int) : Nat × Nat :=
  (num * Nat.pow 2 (-e).toNat, den * Nat.pow 2 e.toNat)

/-- The bits of a double but for the sign, from its mantissa and exponent. A mantissa that rounding
has carried to the next power of two lands on the next exponent by itself. -/
def magnitudeBits (mantissa : Nat) (exponent : Int) : Nat :=
  (exponent - minExponent).toNat * fullMantissa + mantissa

/-- The bits of positive infinity. -/
def infinityBits : Nat := 2047 * fullMantissa

def ofMagnitude (negative : Bool) (bits : Nat) : Float :=
  Float.ofBits (UInt64.ofNat ((if negative then signBit else 0) + min bits infinityBits))

/-- The double nearest to `num / den`, with the given sign. -/
def nearest (negative : Bool) (num den : Nat) : Float :=
  if num = 0 then ofMagnitude negative 0
  else
    let low : Int := (num.log2 : Int) - den.log2 - 53
    let (n, d) := scaleBy num den low
    let exponent := max minExponent (if n / d < 2 * fullMantissa then low else low + 1)
    let (n, d) := scaleBy num den exponent
    ofMagnitude negative (magnitudeBits (roundHalfEven n d) exponent)

/-- The double nearest to `digits * 10 ^ exponent`. A power far outside the range of doubles is
settled by its size alone. -/
def ofDecimal (negative : Bool) (digits : Nat) (exponent : Int) : Float :=
  let size := (Nat.toDigits 10 digits).length + exponent
  if digits = 0 || size < -400 then ofMagnitude negative 0
  else if 400 < size then ofMagnitude negative infinityBits
  else nearest negative (digits * Nat.pow 10 exponent.toNat) (Nat.pow 10 (-exponent).toNat)

/-- The double nearest to an integer. -/
def ofInt (n : Int) : Float := nearest (n < 0) n.natAbs 1

end ReporterBlocks.Double
