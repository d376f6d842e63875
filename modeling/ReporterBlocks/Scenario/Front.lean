import ReporterBlocks.Text.Blank
import ReporterBlocks.Text.Cut

/-!
# Front matter

A scenario file opens with front matter between two lines of three dashes; the specifiers to define
follow. `split` takes the two apart and has the front matter read.
-/

namespace ReporterBlocks

/-- Why a text is no scenario. -/
inductive FormatFault where
  | unopened
  | unclosed
  /-- The front matter could not be read, for the reason that its reader gives. -/
  | front (reason : String)
  deriving DecidableEq, Repr

def FormatFault.message : FormatFault → String
  | unopened => "file must open with a --- line"
  | unclosed => "front matter is never closed by a --- line"
  | front reason => if reason = "" then "front matter" else "front matter: " ++ reason

namespace Front

def byteOrderMark : Char := '\ufeff'

/-- What opens the front matter, and at the beginning of a line closes it. -/
def delimiter : List Char := ['-', '-', '-']

/-- The front matter of a text as `read` understands it, and what follows the closing dashes. Byte
order marks before the text and white space around the front matter are left out. -/
def split {α : Type} (read : List Char → Except String α) (text : List Char) :
    Except FormatFault (α × List Char) :=
  let opened := text.dropWhile (· = byteOrderMark)
  if delimiter.isPrefixOf opened then
    match Text.cut? ('\n' :: delimiter) (opened.drop delimiter.length) with
    | none => .error .unclosed
    | some (front, body) =>
      match read (Text.trim front) with
      | .error reason => .error (.front reason)
      | .ok config => .ok (config, body)
  else .error .unopened

end Front

end ReporterBlocks
