import ReporterBlocks.Text.Blank
import ReporterBlocks.Text.Cut

/-!
# Lines

A line ends at a line feed, or at the carriage return before one. `lines` gives the lines of a text;
an end of line that closes the text opens no further one.
-/

namespace ReporterBlocks.Text

/-- Leaves out one carriage return at the end. -/
def chopReturn (l : List Char) : List Char := if l.getLast? = some '\r' then l.dropLast else l

/-- The lines among the pieces between line feeds: all but the last are ended by a feed, and the
last is one unless it is empty. -/
def linesOfPieces : List (List Char) → List (List Char)
  | [] => []
  | [l] => if l = [] then [] else [l]
  | l :: ls => chopReturn l :: linesOfPieces ls

def lines (s : String) : List String :=
  (linesOfPieces (piecesAt '\n' s.toList)).map String.ofList

end ReporterBlocks.Text
