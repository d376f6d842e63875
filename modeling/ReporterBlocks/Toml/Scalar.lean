import ReporterBlocks.Number.Double
import ReporterBlocks.Toml.Datetime
import ReporterBlocks.Toml.Value

/-!
# TOML words

Numbers, truth values, dates and times are written without quotes. Such a word ends before the first
character that no word holds.
-/

namespace ReporterBlocks.Toml

open Text (Reader numeral digitValue isHexDigit)

namespace Word

/-- The digits of a numeral in which single underscores may stand between digits. -/
def ungroup (p : Char → Bool) : List Char → Option (List Char)
  | [] => none
  | [c] => if p c then some [c] else none
  | c :: '_' :: cs => if p c then (ungroup p cs).map (c :: ·) else none
  | c :: cs => if p c then (ungroup p cs).map (c :: ·) else none

/-- The digits of a decimal integer: no zero stands before others. -/
def wholeDigits (cs : List Char) : Option (List Char) := do
  let digits ← ungroup Char.isDigit cs
  if digits.head? = some '0' && digits.length ≠ 1 then none else some digits

/-- Takes a sign off the front; true for a minus. -/
def sign : List Char → Bool × List Char
  | '-' :: cs => (true, cs)
  | '+' :: cs => (false, cs)
  | cs => (false, cs)

def inRange (n : Int) : Option Value :=
  if minInteger ≤ n && n ≤ maxInteger then some (.integer n) else none

/-- An integer in another base, which has no sign. -/
def basedInteger (base : Nat) (cs : List Char) : Option Value := do
  let digits ← ungroup (fun c => isHexDigit c && digitValue c < base) cs
  inRange (numeral base digits)

def integer (cs : List Char) : Option Value :=
  match cs with
  | '0' :: 'x' :: cs => basedInteger 16 cs
  | '0' :: 'o' :: cs => basedInteger 8 cs
  | '0' :: 'b' :: cs => basedInteger 2 cs
  | cs => do
    let (negative, cs) := sign cs
    let n : Int := numeral 10 (← wholeDigits cs)
    inRange (if negative then -n else n)

/-- The exponent of ten that a word ends in. -/
def exponent : List Char → Option Int
  | [] => some 0
  | c :: cs =>
    if c = 'e' || c = 'E' then do
      let (negative, cs) := sign cs
      let n : Int := numeral 10 (← ungroup Char.isDigit cs)
      some (if negative then -n else n)
    else none

def isGroupedDigit (c : Char) : Bool := c.isDigit || c = '_'

/-- A number with a fraction, an exponent or both. One too large for a double is refused, unless it
is negative. -/
def decimal (cs : List Char) : Option Value := do
  let (negative, cs) := sign cs
  let whole ← wholeDigits (cs.takeWhile isGroupedDigit)
  let (places, rest) ←
    match cs.dropWhile isGroupedDigit with
    | [] => none
    | '.' :: cs => do
      some (← ungroup Char.isDigit (cs.takeWhile isGroupedDigit), cs.dropWhile isGroupedDigit)
    | cs => some ([], cs)
  let e ← exponent rest
  let x := Double.ofDecimal negative (numeral 10 (whole ++ places)) (e - places.length)
  if x.isInf && !negative then none else some (.float x)

/-- Infinity and what is not a number. -/
def special (cs : List Char) : Option Value :=
  let (negative, cs) := sign cs
  if cs = "inf".toList then some (.float (Double.ofMagnitude negative Double.infinityBits))
  else if cs = "nan".toList then some (.float (0.0 / 0.0))
  else none

def boolean (cs : List Char) : Option Value :=
  if cs = "true".toList then some (.boolean true)
  else if cs = "false".toList then some (.boolean false)
  else none

def datetime (cs : List Char) : Option Value :=
  (Datetime.ofText? cs).map fun t => .datetime (String.ofList t)

def isWordChar (c : Char) : Bool := c.isAlphanum || ['+', '-', '_', '.', ':'].contains c

/-- A date and a time may also have a space between them. -/
def spacedDatetime : Reader Value := fun cs => do
  let d ← Datetime.ofDate? (cs.takeWhile isWordChar)
  match cs.dropWhile isWordChar with
  | ' ' :: cs => do
    let t ← Datetime.ofTime? (cs.takeWhile isWordChar)
    some (.datetime (String.ofList (d ++ 'T' :: t)), cs.dropWhile isWordChar)
  | _ => none

def read : Reader Value := fun cs =>
  match spacedDatetime cs with
  | some r => some r
  | none => do
    let word := cs.takeWhile isWordChar
    let v ← boolean word <|> datetime word <|> special word <|> decimal word <|> integer word
    some (v, cs.dropWhile isWordChar)

end Word

end ReporterBlocks.Toml
