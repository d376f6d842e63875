import ReporterBlocks.Json.Value

/-!
# Written JSON values

A value over several lines: each item of an array or an object has a line of its own, two spaces
further in than the brackets around it.
-/

namespace ReporterBlocks.Json

namespace Writing

/-- A character as it stands in a string. -/
def escaped (c : Char) : List Char :=
  match c with
  | '"' => ['\\', '"']
  | '\\' => ['\\', '\\']
  | '\x08' => ['\\', 'b']
  | '\x0c' => ['\\', 'f']
  | '\n' => ['\\', 'n']
  | '\r' => ['\\', 'r']
  | '\t' => ['\\', 't']
  | c =>
    if c < ' ' then
      let ds := Nat.toDigits 16 c.toNat
      ['\\', 'u'] ++ List.replicate (4 - ds.length) '0' ++ ds
    else [c]

/-- A string; one that stands for no characters is written empty. -/
def string (s : Decoded) : String :=
  "\"" ++ String.ofList ((s.getD "").toList.flatMap escaped) ++ "\""

def indent (level : Nat) : String := String.ofList (List.replicate (2 * level) ' ')

/-- The items between two brackets, on lines of their own. -/
def block (opening closing : String) (level : Nat) (items : List String) : String :=
  if items = [] then opening ++ closing
  else
    opening ++ "\n" ++ ",\n".intercalate (items.map fun i => indent (level + 1) ++ i) ++ "\n" ++
      indent level ++ closing

mutual

/-- A value inside the given number of brackets. -/
def value (level : Nat) : Value → String
  | .null => "null"
  | .boolean b => toString b
  | .number literal => literal
  | .string s => string s
  | .array vs => block "[" "]" level (items (level + 1) vs)
  | .object fs => block "\x7b" "\x7d" level (fields (level + 1) fs)

def items (level : Nat) : List Value → List String
  | [] => []
  | v :: vs => value level v :: items level vs

def fields (level : Nat) : List (Decoded × Value) → List String
  | [] => []
  | (k, v) :: fs => (string k ++ ": " ++ value level v) :: fields level fs

end

end Writing

end ReporterBlocks.Json
