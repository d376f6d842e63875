import ReporterBlocks.Json.Value
import ReporterBlocks.Text.Reader

/-!
# JSON documents

A document is one value with nothing but white space around it.
-/

namespace ReporterBlocks.Json

open Text (Reader exactly one numeral isHexDigit)

def isSpace (c : Char) : Bool := c = ' ' || c = '\t' || c = '\n' || c = '\r'

def skipSpace (cs : List Char) : List Char := cs.dropWhile isSpace

/-- The characters of a word. -/
def word (w : String) : Reader Unit := fun cs =>
  if cs.take w.length = w.toList then some ((), cs.drop w.length) else none

/-! ## Numbers -/

/-- One digit or more. -/
def digits : Reader (List Char) := fun cs =>
  match cs.takeWhile Char.isDigit with
  | [] => none
  | ds => some (ds, cs.dropWhile Char.isDigit)

/-- Digits of which the first is a zero only if it is the last. -/
def whole : Reader (List Char) := fun cs => do
  let (ds, cs) ← digits cs
  if ds.head? = some '0' && ds.length ≠ 1 then none else some (ds, cs)

def fraction : Reader (List Char)
  | '.' :: cs => (digits cs).map fun (ds, cs) => ('.' :: ds, cs)
  | cs => some ([], cs)

def exponent : Reader (List Char)
  | [] => some ([], [])
  | c :: cs =>
    if c = 'e' || c = 'E' then
      let (sign, cs) := match cs with
        | '+' :: cs => (['+'], cs)
        | '-' :: cs => (['-'], cs)
        | cs => ([], cs)
      (digits cs).map fun (ds, cs) => (c :: sign ++ ds, cs)
    else some ([], c :: cs)

def number : Reader String := fun cs => do
  let (sign, cs) := match cs with
    | '-' :: cs => (['-'], cs)
    | cs => ([], cs)
  let (ds, cs) ← whole cs
  let (part, cs) ← fraction cs
  let (power, cs) ← exponent cs
  some (String.ofList (sign ++ ds ++ part ++ power), cs)

/-! ## Strings -/

/-- What stands between two quotes, in code units: a character counts as one unit, but an escape may
name half of one. -/
inductive CodeUnit where
  | char (c : Char)
  | half (code : Nat)

/-- A code unit by its four digits. -/
def hexUnit : Reader CodeUnit := fun cs => do
  let (ds, cs) ← exactly 4 isHexDigit cs
  let code := numeral 16 ds
  some (if code.isValidChar then .char (Char.ofNat code) else .half code, cs)

/-- What stands after a backslash. -/
def escape : Reader CodeUnit
  | '"' :: cs => some (.char '"', cs)
  | '\\' :: cs => some (.char '\\', cs)
  | '/' :: cs => some (.char '/', cs)
  | 'b' :: cs => some (.char '\x08', cs)
  | 'f' :: cs => some (.char '\x0c', cs)
  | 'n' :: cs => some (.char '\n', cs)
  | 'r' :: cs => some (.char '\r', cs)
  | 't' :: cs => some (.char '\t', cs)
  | 'u' :: cs => hexUnit cs
  | _ => none

/-- The code units up to the closing quote. -/
def units : Nat → Reader (List CodeUnit)
  | 0, _ => none
  | _, [] => none
  | fuel + 1, c :: cs => do
    if c = '"' then some ([], cs)
    else
      let (u, cs) ← if c = '\\' then escape cs else if c < ' ' then none else some (.char c, cs)
      let (us, cs) ← units fuel cs
      some (u :: us, cs)

/-- The character of a leading and a trailing half. -/
def joined? (a b : Nat) : Option Char :=
  if 0xd800 ≤ a && a < 0xdc00 && 0xdc00 ≤ b && b < 0xe000 then
    some (Char.ofNat (0x10000 + (a - 0xd800) * 0x400 + (b - 0xdc00)))
  else none

/-- The characters of code units, if each half has its other half after it. -/
def characters : List CodeUnit → Option (List Char)
  | [] => some []
  | .char c :: us => (characters us).map (c :: ·)
  | .half a :: .half b :: us => do
    let c ← joined? a b
    (characters us).map (c :: ·)
  | .half _ :: _ => none

/-- A string after its opening quote. -/
def string : Reader Decoded := fun cs => do
  let (us, cs) ← units (cs.length + 1) cs
  some ((characters us).map String.ofList, cs)

/-! ## Values -/

/-- Items with commas between them, up to the closing character. -/
def items {α : Type} (closing : Char) (item : Reader α) : Nat → Reader (List α)
  | 0, _ => none
  | fuel + 1, cs => do
    let (v, cs) ← item (skipSpace cs)
    match skipSpace cs with
    | [] => none
    | c :: cs =>
      if c = closing then some ([v], cs)
      else if c = ',' then do
        let (vs, cs) ← items closing item fuel cs
        some (v :: vs, cs)
      else none

/-- Items, or none at all, after the opening character. -/
def list {α : Type} (closing : Char) (item : Reader α) : Reader (List α) := fun cs =>
  match one closing (skipSpace cs) with
  | some ((), cs) => some ([], cs)
  | none => items closing item (cs.length + 1) cs

def field (v : Reader Value) : Reader (Decoded × Value) := fun cs => do
  let ((), cs) ← one '"' cs
  let (k, cs) ← string cs
  let ((), cs) ← one ':' (skipSpace cs)
  let (v, cs) ← v (skipSpace cs)
  some ((k, v), cs)

/-- A value in which arrays and objects nest at most as deep as the number says. -/
def value : Nat → Reader Value
  | depth, cs =>
    match cs with
    | [] => none
    | '"' :: cs => (string cs).map fun (s, cs) => (.string s, cs)
    | '[' :: cs =>
      match depth with
      | 0 => none
      | depth + 1 => (list ']' (value depth) cs).map fun (vs, cs) => (.array vs, cs)
    | '\x7b' :: cs =>
      match depth with
      | 0 => none
      | depth + 1 => (list '\x7d' (field (value depth)) cs).map fun (fs, cs) => (.object fs, cs)
    | 'n' :: _ => (word "null" cs).map fun (_, cs) => (.null, cs)
    | 't' :: _ => (word "true" cs).map fun (_, cs) => (.boolean true, cs)
    | 'f' :: _ => (word "false" cs).map fun (_, cs) => (.boolean false, cs)
    | cs => (number cs).map fun (n, cs) => (.number n, cs)

/-- Reads a document. -/
def parse (text : List Char) : Option Value := do
  let (v, cs) ← value text.length (skipSpace text)
  if skipSpace cs = [] then some v else none

end ReporterBlocks.Json
