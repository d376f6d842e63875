import ReporterBlocks.Command.Console
import ReporterBlocks.Specifier.Reading

/-!
# Snippets

A report is shown with the text that it is about: the text stands on a line of its own, and carets
under it mark the span. Each character takes one column, but a tab goes on to the next multiple of
four.
-/

namespace ReporterBlocks.Command

namespace Snippet

def tabWidth : Nat := 4

/-- A character in its place. -/
structure Placed where
  char : Char
  /-- The byte that it begins at. -/
  pos : Nat
  /-- How many columns it takes. -/
  width : Nat

def place (pos column : Nat) : List Char → List Placed
  | [] => []
  | c :: cs =>
    let width := if c = '\t' then tabWidth - column % tabWidth else 1
    ⟨c, pos, width⟩ :: place (pos + c.utf8Size) (column + width) cs

def Placed.shown (p : Placed) : List Char :=
  if p.char = '\t' then List.replicate p.width ' ' else [p.char]

/-- The columns that a character takes, filled with one character. -/
def Placed.filled (c : Char) (p : Placed) : List Char := List.replicate p.width c

def headColour : String := "\x1b[1m\x1b[38;5;11m"

def boldColour : String := "\x1b[1m"

def frameColour : String := "\x1b[36m"

def spanColour : String := "\x1b[33m"

/-- The report on the text that it is about. At least one caret is shown. -/
def render (colour : Bool) (text : String) (r : Report) : String :=
  let placed := place 0 0 text.toList
  let stop := max r.span.stop (r.span.start + 1)
  let before := placed.filter fun p => p.pos < r.span.start
  let marked := placed.filter fun p => r.span.start ≤ p.pos && p.pos < stop
  let after := placed.filter fun p => stop ≤ p.pos
  let plain (ps : List Placed) : String := String.ofList (ps.flatMap Placed.shown)
  let frame (s : String) : String := styled colour [(frameColour, s)]
  let span (s : String) : String := if s = "" then "" else styled colour [(spanColour, s)]
  let carets := if marked.isEmpty then "^" else String.ofList (marked.flatMap (Placed.filled '^'))
  let padding := String.ofList (before.flatMap (Placed.filled ' '))
  styled colour [(headColour, "warning"), (boldColour, ": " ++ r.message)] ++ "\n" ++
    "  " ++ frame "┌─" ++ s!" <specifier>:1:{before.length + 1}\n" ++
    "  " ++ frame "│" ++ "\n" ++
    frame "1" ++ " " ++ frame "│" ++ " " ++ plain before ++ span (plain marked) ++ plain after ++
      "\n" ++
    "  " ++ frame "│" ++ " " ++ padding ++ span carets ++ "\n" ++
    (if r.notes = [] then ""
      else
        "  " ++ frame "│" ++ "\n" ++
          String.join (r.notes.map fun n => "  " ++ frame "=" ++ " " ++ n ++ "\n")) ++
    "\n"

end Snippet

end ReporterBlocks.Command
