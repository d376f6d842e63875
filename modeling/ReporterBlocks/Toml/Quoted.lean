import ReporterBlocks.Text.Reader

/-!
# TOML strings

Four ways to write a string: on one line or over several, with escapes or literally.
-/

namespace ReporterBlocks.Toml

open Text (Reader hexEscape)

/-- A character that may stand in a string or a comment: no control character but the tab. -/
def isPlain (c : Char) : Bool := c = '\t' || (' ' ≤ c && c ≠ '\x7f')

def isSpace (c : Char) : Bool := c = ' ' || c = '\t'

namespace Quoted

/-- What stands after a backslash. -/
def escape : Reader Char
  | 'b' :: cs => some ('\x08', cs)
  | 't' :: cs => some ('\t', cs)
  | 'n' :: cs => some ('\n', cs)
  | 'f' :: cs => some ('\x0c', cs)
  | 'r' :: cs => some ('\r', cs)
  | '"' :: cs => some ('"', cs)
  | '\\' :: cs => some ('\\', cs)
  | 'u' :: cs => hexEscape 4 cs
  | 'U' :: cs => hexEscape 8 cs
  | _ => none

/-- Spaces and ends of lines. -/
def skipSpace : List Char → List Char
  | '\r' :: '\n' :: cs => skipSpace cs
  | c :: cs => if isSpace c || c = '\n' then skipSpace cs else c :: cs
  | [] => []

/-- After a backslash at the end of a line, that and all space up to the next text is left out. -/
def continued? (cs : List Char) : Option (List Char) :=
  match cs.dropWhile isSpace with
  | '\n' :: cs => some (skipSpace cs)
  | '\r' :: '\n' :: cs => some (skipSpace cs)
  | _ => none

/-- The text up to the closing quote on the same line. -/
def lineBody (quote : Char) (escapes : Bool) : Nat → Reader (List Char)
  | 0, _ => none
  | _, [] => none
  | fuel + 1, c :: cs => do
    if c = quote then some ([], cs)
    else
      let (c, cs) ←
        if escapes && c = '\\' then escape cs else if isPlain c then some (c, cs) else none
      let (text, cs) ← lineBody quote escapes fuel cs
      some (c :: text, cs)

/-- The text up to three closing quotes. One or two quotes may stand anywhere in it, also just
before the three. -/
def blockBody (quote : Char) (escapes : Bool) : Nat → Reader (List Char)
  | 0, _ => none
  | fuel + 1, cs =>
    let quotes := cs.takeWhile (· = quote)
    let rest := cs.dropWhile (· = quote)
    let more (front : List Char) (cs : List Char) : Option (List Char × List Char) := do
      let (text, cs) ← blockBody quote escapes fuel cs
      some (front ++ text, cs)
    if 3 ≤ quotes.length then
      if quotes.length ≤ 5 then some (quotes.drop 3, rest) else none
    else if quotes ≠ [] then more quotes rest
    else
      match cs with
      | [] => none
      | '\n' :: cs => more ['\n'] cs
      | '\r' :: '\n' :: cs => more ['\n'] cs
      | c :: cs =>
        if escapes && c = '\\' then
          match continued? cs with
          | some cs => more [] cs
          | none => do
            let (d, cs) ← escape cs
            more [d] cs
        else if isPlain c then more [c] cs
        else none

/-- An end of line just after the opening quotes is left out. -/
def skipFirstEnd : List Char → List Char
  | '\n' :: cs => cs
  | '\r' :: '\n' :: cs => cs
  | cs => cs

/-- A string on one line, from its quote on. -/
def readLine : Reader String
  | c :: cs =>
    if c = '"' || c = '\'' then do
      let (text, cs) ← lineBody c (c = '"') (cs.length + 1) cs
      some (String.ofList text, cs)
    else none
  | [] => none

def read : Reader String
  | a :: b :: c :: cs =>
    if (a = '"' || a = '\'') && b = a && c = a then do
      let (text, cs) ← blockBody a (a = '"') (cs.length + 1) (skipFirstEnd cs)
      some (String.ofList text, cs)
    else readLine (a :: b :: c :: cs)
  | cs => readLine cs

end Quoted

end ReporterBlocks.Toml
