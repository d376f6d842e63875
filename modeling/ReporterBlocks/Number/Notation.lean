import ReporterBlocks.Number.Shortest

/-!
# Written numbers

Two ways to write a double, both with the fewest digits that read back: plainly, as a value is shown
to a user, and marked, as a value is shown in a report, where a number is told from its integer by a
fraction and a large or small one has an exponent.
-/

namespace ReporterBlocks.Number

/-- Digits with the point where it belongs; a whole number ends as `whole` says. -/
def positional (d : Decimal) (whole : String) : String :=
  let ds := d.digitText
  let zeros (n : Nat) := List.replicate n '0'
  if 0 ≤ d.exponent then String.ofList (ds ++ zeros d.exponent.toNat) ++ whole
  else
    let places := (-d.exponent).toNat
    let padded := zeros (places + 1 - ds.length) ++ ds
    let point := padded.length - places
    String.ofList (padded.take point ++ '.' :: padded.drop point)

/-- One digit, the others after a point, and the exponent. -/
def scientific (d : Decimal) : String :=
  let ds := d.digitText
  let fraction := if ds.length ≤ 1 then [] else '.' :: ds.drop 1
  String.ofList (ds.take 1 ++ fraction) ++ "e" ++ toString (d.exponent + ds.length - 1)

def signText (negative : Bool) : String := if negative then "-" else ""

/-- The magnitude of `mantissa * 2 ^ exponent` if it is an integer. -/
def integral? (mantissa : Nat) (exponent : Int) : Option Nat :=
  let divisor := Nat.pow 2 (-exponent).toNat
  if mantissa % divisor = 0 then some (mantissa / divisor * Nat.pow 2 exponent.toNat) else none

/-- Integers below this size are written as such, zero without a sign. -/
def integerLimit : Nat := 1000000000000000

/-- A number as a user sees it: never with an exponent. -/
def plain (x : Float) : String :=
  match Double.classify x with
  | .nan => "NaN"
  | .infinite negative => signText negative ++ "inf"
  | .finite negative m q =>
    match integral? m q with
    | some n =>
      if n < integerLimit then signText (negative && n ≠ 0) ++ toString n
      else signText negative ++ positional (Decimal.shortest m q) ""
    | none => signText negative ++ positional (Decimal.shortest m q) ""

/-- A number as a report shows it: with a fraction, or with an exponent from `10 ^ 16` on and below
`10 ^ -4`. -/
def marked (x : Float) : String :=
  match Double.classify x with
  | .nan => "NaN"
  | .infinite negative => signText negative ++ "inf"
  | .finite negative m q =>
    let d := Decimal.shortest m q
    let size := x.abs
    signText negative ++
      if m ≠ 0 && (size ≥ 1e16 || size < 1e-4) then scientific d else positional d ".0"

end ReporterBlocks.Number
