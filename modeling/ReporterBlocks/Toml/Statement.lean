import ReporterBlocks.Toml.Quoted
import ReporterBlocks.Toml.Scalar

/-!
# TOML statements

A document is a sequence of statements: a table header, the header of one more table of an array, or
a value for a key. A value may hold further assignments, in an inline table, which `assemble` makes
into a value; it is given to the readers that need it.
-/

namespace ReporterBlocks.Toml

open Text (Reader one)

/-- A dotted key. -/
abbrev Key := List String

inductive Statement where
  | header (key : Key)
  | arrayHeader (key : Key)
  | assign (key : Key) (v : Value)

/-- Values may nest less deep than this, and keys may have fewer parts. -/
def depthLimit : Nat := 80

def isBareKeyChar (c : Char) : Bool := c.isAlphanum || c = '-' || c = '_'

def keyPart : Reader String := fun cs =>
  match cs with
  | '"' :: _ => Quoted.readLine cs
  | '\'' :: _ => Quoted.readLine cs
  | _ =>
    let part := cs.takeWhile isBareKeyChar
    if part = [] then none else some (String.ofList part, cs.dropWhile isBareKeyChar)

/-- The parts of a key with a point between them and space around them, at most as many as the fuel
says. -/
def keyParts : Nat → Reader Key
  | 0, _ => none
  | fuel + 1, cs => do
    let (part, cs) ← keyPart (cs.dropWhile isSpace)
    match cs.dropWhile isSpace with
    | '.' :: cs => do
      let (parts, cs) ← keyParts fuel cs
      some (part :: parts, cs)
    | cs => some ([part], cs)

def key : Reader Key := keyParts (depthLimit - 1)

/-- Leaves out spaces, ends of lines and comments; a comment needs an end of line. -/
def skipTrivia (inComment : Bool) : List Char → List Char
  | [] => []
  | '\r' :: '\n' :: cs => skipTrivia false cs
  | c :: cs =>
    if c = '\n' then skipTrivia false cs
    else if inComment then if isPlain c then skipTrivia true cs else c :: cs
    else if isSpace c then skipTrivia false cs
    else if c = '#' then skipTrivia true cs
    else c :: cs

/-- The items of an array after its bracket. -/
def arrayItems (item : Reader Value) : Nat → Reader (List Value)
  | 0, _ => none
  | fuel + 1, cs =>
    match skipTrivia false cs with
    | ']' :: cs => some ([], cs)
    | cs => do
      let (v, cs) ← item cs
      match skipTrivia false cs with
      | ']' :: cs => some ([v], cs)
      | ',' :: cs => do
        let (vs, cs) ← arrayItems item fuel cs
        some (v :: vs, cs)
      | _ => none

/-- A key and its value. -/
def assignment (item : Reader Value) : Reader (Key × Value) := fun cs => do
  let (k, cs) ← key cs
  let ((), cs) ← one '=' cs
  let (v, cs) ← item (cs.dropWhile isSpace)
  some ((k, v), cs.dropWhile isSpace)

/-- The assignments of an inline table after its brace. -/
def inlineItems (item : Reader Value) : Nat → Reader (List (Key × Value))
  | 0, _ => none
  | fuel + 1, cs => do
    let (a, cs) ← assignment item cs
    match cs with
    | '\x7d' :: cs => some ([a], cs)
    | ',' :: cs => do
      let (as, cs) ← inlineItems item fuel cs
      some (a :: as, cs)
    | _ => none

def inlineTable (item : Reader Value) : Reader (List (Key × Value)) := fun cs =>
  match cs.dropWhile isSpace with
  | '\x7d' :: cs => some ([], cs)
  | cs => inlineItems item (cs.length + 1) cs

/-- A value in which arrays and tables nest at most as deep as the number says. -/
def value (assemble : List (Key × Value) → Option Table) : Nat → Reader Value
  | depth, cs =>
    match cs with
    | '"' :: _ => (Quoted.read cs).map fun (s, cs) => (.string s, cs)
    | '\'' :: _ => (Quoted.read cs).map fun (s, cs) => (.string s, cs)
    | '[' :: cs =>
      match depth with
      | 0 => none
      | depth + 1 =>
        (arrayItems (value assemble depth) (cs.length + 1) cs).map fun (vs, cs) => (.array vs, cs)
    | '\x7b' :: cs =>
      match depth with
      | 0 => none
      | depth + 1 => do
        let (as, cs) ← inlineTable (value assemble depth) cs
        some (.table (← assemble as), cs)
    | cs => Word.read cs

/-- The end of a line, with or without a comment before it, or of the document. -/
def lineEnd (cs : List Char) : Option (List Char) :=
  let cs := cs.dropWhile isSpace
  let cs := match cs with
    | '#' :: cs => cs.dropWhile isPlain
    | cs => cs
  match cs with
  | [] => some []
  | '\n' :: cs => some cs
  | '\r' :: '\n' :: cs => some cs
  | _ => none

/-- One statement or none, up to the end of its line. -/
def statement (assemble : List (Key × Value) → Option Table) : Reader (List Statement) := fun cs =>
  match cs.dropWhile isSpace with
  | '[' :: '[' :: cs => do
    let (k, cs) ← key cs
    let ((), cs) ← one ']' cs
    let ((), cs) ← one ']' cs
    some ([.arrayHeader k], ← lineEnd cs)
  | '[' :: cs => do
    let (k, cs) ← key cs
    let ((), cs) ← one ']' cs
    some ([.header k], ← lineEnd cs)
  | cs =>
    match lineEnd cs with
    | some cs => some ([], cs)
    | none => do
      let ((k, v), cs) ← assignment (value assemble (depthLimit - 1)) cs
      some ([.assign k v], ← lineEnd cs)

/-- The statements of a document, line by line. -/
def statements (assemble : List (Key × Value) → Option Table) : Nat → List Char →
    Option (List Statement)
  | _, [] => some []
  | 0, _ => none
  | fuel + 1, cs => do
    let (first, cs) ← statement assemble cs
    some (first ++ (← statements assemble fuel cs))

end ReporterBlocks.Toml
