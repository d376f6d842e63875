import ReporterBlocks.Text.Reader

/-!
# Dates and times

Reading gives the canonical form: a capital `T` between date and time, a capital `Z`, at most nine
digits of a second without zeros at the end, and no negative offset of zero.
-/

namespace ReporterBlocks.Toml.Datetime

open Text (Reader exactly one numeral)

/-- Two digits in a range. -/
def twoDigits (low high : Nat) : Reader (List Char) := fun cs => do
  let (digits, cs) ← exactly 2 Char.isDigit cs
  let n := numeral 10 digits
  if low ≤ n && n ≤ high then some (digits, cs) else none

def isLeapYear (y : Nat) : Bool := y % 4 = 0 && (y % 100 ≠ 0 || y % 400 = 0)

def daysIn (year month : Nat) : Nat :=
  if month = 2 then if isLeapYear year then 29 else 28
  else if [4, 6, 9, 11].contains month then 30
  else 31

def date : Reader (List Char) := fun cs => do
  let (year, cs) ← exactly 4 Char.isDigit cs
  let ((), cs) ← one '-' cs
  let (month, cs) ← twoDigits 1 12 cs
  let ((), cs) ← one '-' cs
  let (day, cs) ← twoDigits 1 (daysIn (numeral 10 year) (numeral 10 month)) cs
  some (year ++ '-' :: month ++ '-' :: day, cs)

/-- The digits of a second after the point, without the zeros at the end. -/
def significant (digits : List Char) : List Char :=
  ((digits.take 9).reverse.dropWhile (· = '0')).reverse

/-- The part of a second, if there is one. -/
def fraction : Reader (List Char)
  | '.' :: cs =>
    let digits := cs.takeWhile Char.isDigit
    if digits = [] then none
    else
      let kept := significant digits
      some (if kept = [] then [] else '.' :: kept, cs.dropWhile Char.isDigit)
  | cs => some ([], cs)

/-- A time of day; a minute may have a second number sixty. -/
def time : Reader (List Char) := fun cs => do
  let (hour, cs) ← twoDigits 0 23 cs
  let ((), cs) ← one ':' cs
  let (minute, cs) ← twoDigits 0 59 cs
  let ((), cs) ← one ':' cs
  let (second, cs) ← twoDigits 0 60 cs
  let (part, cs) ← fraction cs
  some (hour ++ ':' :: minute ++ ':' :: second ++ part, cs)

/-- The offset from universal time, if there is one. -/
def offset : Reader (List Char)
  | [] => some ([], [])
  | c :: cs =>
    if c = 'Z' || c = 'z' then some (['Z'], cs)
    else if c = '+' || c = '-' then do
      let (hour, cs) ← twoDigits 0 23 cs
      let ((), cs) ← one ':' cs
      let (minute, cs) ← twoDigits 0 59 cs
      let sign := if numeral 10 (hour ++ minute) = 0 then '+' else c
      some (sign :: hour ++ ':' :: minute, cs)
    else some ([], c :: cs)

/-- The canonical form of a text that is a time with an offset or without. -/
def ofTime? (cs : List Char) : Option (List Char) := do
  let (t, cs) ← time cs
  let (o, cs) ← offset cs
  if cs = [] then some (t ++ o) else none

/-- The canonical form of a text that is a date alone. -/
def ofDate? (cs : List Char) : Option (List Char) := do
  let (d, cs) ← date cs
  if cs = [] then some d else none

/-- The canonical form of a text that is a date, a time of day or both. -/
def ofText? (cs : List Char) : Option (List Char) :=
  match date cs with
  | some (d, []) => some d
  | some (d, c :: cs) =>
    if c = 'T' || c = 't' || c = ' ' then (ofTime? cs).map fun t => d ++ 'T' :: t else none
  | none =>
    match time cs with
    | some (t, []) => some t
    | _ => none

end ReporterBlocks.Toml.Datetime
