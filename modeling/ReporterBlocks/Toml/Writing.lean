import ReporterBlocks.Number.Notation
import ReporterBlocks.Toml.Value
import ReporterBlocks.Text.Quoted

/-!
# Written TOML values

A value on one line, but for strings that hold an end of line. Strings are written in the first of
these ways that needs no escape: in plain quotes, literally, over lines, literally over lines; and
with escapes if there is none. The keys of a table are in ascending order.
-/

namespace ReporterBlocks.Toml

namespace Writing

/-- The length of the longest run of a character. -/
def longestRun (c : Char) (cs : List Char) : Nat :=
  (cs.foldl (fun (run, longest) d =>
    if d = c then (run + 1, max (run + 1) longest) else (0, longest)) (0, 0)).2

def hasEnd (cs : List Char) : Bool := cs.contains '\n'

/-- A control character that only an escape can write. -/
def needsEscape (c : Char) : Bool := (c < ' ' && c ≠ '\t' && c ≠ '\n') || c = '\x7f'

def escapeCode (c : Char) : List Char :=
  let ds := (Nat.toDigits 16 c.toNat).map Char.toUpper
  ['\\', 'u'] ++ List.replicate (4 - ds.length) '0' ++ ds

/-- A character of a string with escapes; over lines an end of line stands for itself. -/
def escaped (overLines : Bool) (c : Char) : List Char :=
  match c with
  | '\x08' => ['\\', 'b']
  | '\t' => ['\\', 't']
  | '\n' => if overLines then ['\n'] else ['\\', 'n']
  | '\x0c' => ['\\', 'f']
  | '\r' => ['\\', 'r']
  | '\\' => ['\\', '\\']
  | c => if needsEscape c then escapeCode c else [c]

/-- Escapes the text; of the quotes in a row, those beyond `quotes` are escaped. -/
def escapeAll (overLines : Bool) (quotes : Nat) : Nat → List Char → List Char
  | _, [] => []
  | run, c :: cs =>
    if c = '"' then
      if quotes ≤ run then ['\\', '"'] ++ escapeAll overLines quotes 0 cs
      else '"' :: escapeAll overLines quotes (run + 1) cs
    else escaped overLines c ++ escapeAll overLines quotes 0 cs

def string (s : String) : String :=
  let cs := s.toList
  let overLines := hasEnd cs
  let controls := cs.any needsEscape
  let backslash := cs.contains '\\'
  let doubles := longestRun '"' cs
  let singles := longestRun '\'' cs
  let first := if overLines then "\n" else ""
  let plain (quotes : Nat) := String.ofList (escapeAll (0 < quotes) quotes 0 cs)
  if !(controls || backslash || 0 < doubles || overLines) then "\"" ++ plain 0 ++ "\""
  else if !(controls || 0 < singles || overLines) then "'" ++ s ++ "'"
  else if !(controls || backslash || 2 < doubles) then "\"\"\"" ++ first ++ plain 2 ++ "\"\"\""
  else if !(controls || 2 < singles) then "'''" ++ first ++ s ++ "'''"
  else if overLines then "\"\"\"" ++ first ++ plain 2 ++ "\"\"\""
  else "\"" ++ plain 0 ++ "\""

def isBareKey (s : String) : Bool :=
  s ≠ "" && s.toList.all fun c => c.isAlphanum || c = '-' || c = '_'

def key (s : String) : String :=
  let cs := s.toList
  let controls := cs.any needsEscape || hasEnd cs
  if isBareKey s then s
  else if !(controls || cs.contains '\\' || cs.contains '"') then
    "\"" ++ String.ofList (escapeAll false 0 0 cs) ++ "\""
  else if !(controls || cs.contains '\'') then "'" ++ s ++ "'"
  else "\"" ++ String.ofList (escapeAll false 0 0 cs) ++ "\""

/-- Never with an exponent, and with a point if the number is an integer. -/
def float (x : Float) : String :=
  match Double.classify x with
  | .nan => "nan"
  | .infinite negative => Number.signText negative ++ "inf"
  | .finite negative m q =>
    Number.signText negative ++ Number.positional (Decimal.shortest m q) ".0"

mutual

def value : Value → String
  | .string s => string s
  | .integer n => toString n
  | .float x => float x
  | .boolean b => toString b
  | .datetime t => t
  | .array vs => "[" ++ ", ".intercalate (items vs) ++ "]"
  | .table [] => "\x7b\x7d"
  | .table (f :: fs) =>
    let pairs := (pair f :: pairs fs).mergeSort fun a b => a.1 ≤ b.1
    "\x7b " ++ ", ".intercalate (pairs.map fun (k, v) => key k ++ " = " ++ v) ++ " \x7d"

def items : List Value → List String
  | [] => []
  | v :: vs => value v :: items vs

def pair : String × Value → String × String
  | (k, v) => (k, value v)

def pairs : List (String × Value) → List (String × String)
  | [] => []
  | f :: fs => pair f :: pairs fs

end

/-- A value that stands by itself: a date or a time is written as a table with one key. -/
def document : Value → String
  | .datetime t => value (.table [(datetimeKey, .string t)])
  | v => value v

end Writing

end ReporterBlocks.Toml
