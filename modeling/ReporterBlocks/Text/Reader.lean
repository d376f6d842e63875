/-!
# Readers

A reader takes what it recognises off the front of a text and gives the rest back.
-/

namespace ReporterBlocks.Text

abbrev Reader (α : Type) := List Char → Option (α × List Char)

def isHexDigit (c : Char) : Bool := c.isDigit || ('a' ≤ c && c ≤ 'f') || ('A' ≤ c && c ≤ 'F')

/-- The value of a digit in a base of at most sixteen. -/
def digitValue (c : Char) : Nat :=
  if c.isDigit then c.toNat - '0'.toNat
  else if 'a' ≤ c then c.toNat - 'a'.toNat + 10
  else c.toNat - 'A'.toNat + 10

def numeral (base : Nat) (digits : List Char) : Nat :=
  digits.foldl (fun n c => n * base + digitValue c) 0

/-- A given number of characters that all satisfy `p`. -/
def exactly (count : Nat) (p : Char → Bool) : Reader (List Char) := fun cs =>
  let taken := cs.take count
  if taken.length = count && taken.all p then some (taken, cs.drop count) else none

/-- One given character. -/
def one (c : Char) : Reader Unit
  | d :: cs => if d = c then some ((), cs) else none
  | [] => none

/-- A character by the four or eight digits of its code point. -/
def hexEscape (count : Nat) : Reader Char := fun cs => do
  let (digits, cs) ← exactly count isHexDigit cs
  let code := numeral 16 digits
  if code.isValidChar then some (Char.ofNat code, cs) else none

end ReporterBlocks.Text
