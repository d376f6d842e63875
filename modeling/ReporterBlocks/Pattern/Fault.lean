/-!
# Faults of patterns

What may be wrong with a written pattern, and the report that marks the place under the pattern.
-/

namespace ReporterBlocks.Pattern

/-- A piece of a written pattern, from one character up to another that is not part of it. -/
structure Span where
  first : Nat
  last : Nat
  deriving DecidableEq, Repr

inductive Problem where
  | setEscape
  | setOrder
  | setEnds
  | setOpen
  | countLarge
  | hexEmpty
  | hexNoCharacter
  | hexDigit
  | escapeEnd
  | escapeUnknown
  | flagDangling
  | flagTwice
  | flagNegatedTwice
  | flagEnd
  | flagUnknown
  | nameTwice
  | nameEmpty
  | nameCharacter
  | nameEnd
  | groupOpen
  | groupClosed
  | countOrder
  | countEmpty
  | countOpen
  | nothingRepeated
  | edgeOpen
  | edgeUnknown
  | edgeEnd
  | propertyName
  | backReference
  | lookAround
  /-- What only texts of characters know is asked of bytes. -/
  | bytesOnly
  /-- A part could stand for bytes that are no text. -/
  | noText
  | noProperty
  | noPropertyValue
  | noLetterClass
  | noCases
  deriving DecidableEq, Repr

namespace Problem

def message : Problem → String
  | setEscape => "invalid escape sequence found in character class"
  | setOrder => "invalid character class range, the start must be <= the end"
  | setEnds => "invalid range boundary, must be a literal"
  | setOpen => "unclosed character class"
  | countLarge => "decimal literal invalid"
  | hexEmpty => "hexadecimal literal empty"
  | hexNoCharacter => "hexadecimal literal is not a Unicode scalar value"
  | hexDigit => "invalid hexadecimal digit"
  | escapeEnd => "incomplete escape sequence, reached end of pattern prematurely"
  | escapeUnknown => "unrecognized escape sequence"
  | flagDangling => "dangling flag negation operator"
  | flagTwice => "duplicate flag"
  | flagNegatedTwice => "flag negation operator repeated"
  | flagEnd => "expected flag but got end of regex"
  | flagUnknown => "unrecognized flag"
  | nameTwice => "duplicate capture group name"
  | nameEmpty => "empty capture group name"
  | nameCharacter => "invalid capture group character"
  | nameEnd => "unclosed capture group name"
  | groupOpen => "unclosed group"
  | groupClosed => "unopened group"
  | countOrder => "invalid repetition count range, the start must be <= the end"
  | countEmpty => "repetition quantifier expects a valid decimal"
  | countOpen => "unclosed counted repetition"
  | nothingRepeated => "repetition operator missing expression"
  | edgeOpen =>
    "special word boundary assertion is either unclosed or contains an invalid character"
  | edgeUnknown =>
    "unrecognized special word boundary assertion, valid choices are: " ++
      "start, end, start-half or end-half"
  | edgeEnd =>
    "found either the beginning of a special word boundary or a bounded repetition on a \\b " ++
      "with an opening brace, but no closing brace"
  | propertyName => "invalid Unicode character class"
  | backReference => "backreferences are not supported"
  | lookAround => "look-around, including look-ahead and look-behind, is not supported"
  | bytesOnly => "Unicode not allowed here"
  | noText => "pattern can match invalid UTF-8"
  | noProperty => "Unicode property not found"
  | noPropertyValue => "Unicode property value not found"
  | noLetterClass =>
    "Unicode-aware Perl class not found (make sure the unicode-perl feature is enabled)"
  | noCases =>
    "Unicode-aware case insensitivity matching is not available " ++
      "(make sure the unicode-case feature is enabled)"

end Problem

inductive Fault where
  /-- A problem with a piece of the pattern, and the piece before it that makes it one. -/
  | mistake (problem : Problem) (span : Span) (earlier : Option Span)
  /-- The pattern means something that cannot be decided. -/
  | undecidable
  deriving DecidableEq, Repr

/-! ## Reports -/

/-- A place in a text of lines, both counted from zero. -/
structure Spot where
  line : Nat
  column : Nat
  deriving DecidableEq, Repr

def spotFrom (s : Spot) : List Char → Nat → Spot
  | [], _ => s
  | _, 0 => s
  | c :: cs, n + 1 =>
    spotFrom (if c = '\n' then ⟨s.line + 1, 0⟩ else ⟨s.line, s.column + 1⟩) cs n

def spot (pattern : List Char) (n : Nat) : Spot := spotFrom ⟨0, 0⟩ pattern n

/-- The lines of a pattern; an end of line at the end begins no further one. -/
def linesOf : List Char → List (List Char)
  | [] => []
  | c :: cs =>
    if c = '\n' then [] :: linesOf cs
    else
      match linesOf cs with
      | [] => [[c]]
      | l :: ls => (c :: l) :: ls

/-- Marks under pieces of a line, which are given by their first column and the one after the last;
an empty piece has one mark. -/
def marks (column : Nat) : List (Nat × Nat) → List Char
  | [] => []
  | (first, last) :: rest =>
    let width := max 1 (last - first)
    List.replicate (first - column) ' ' ++ List.replicate width '^' ++
      marks (max column first + width) rest

/-- The pattern, each line after a margin, with marks under the lines that hold a piece. -/
def markedLines (margin : Nat → List Char) (pieces : Nat → List (Nat × Nat)) :
    Nat → List (List Char) → List Char
  | _, [] => []
  | n, l :: ls =>
    let under := match pieces n with
      | [] => []
      | ps => List.replicate (margin n).length ' ' ++ marks 0 ps ++ ['\n']
    margin n ++ l ++ '\n' :: under ++ markedLines margin pieces (n + 1) ls

def decimal (n : Nat) : List Char := Nat.toDigits 10 n

/-- Where a piece lies that goes over several lines; lines and columns are counted from one. -/
def overLines (first last : Spot) : List Char :=
  "on line ".toList ++ decimal (first.line + 1) ++ " (column ".toList ++
    decimal (first.column + 1) ++ ") through line ".toList ++ decimal (last.line + 1) ++
    " (column ".toList ++ decimal last.column ++ ")\n".toList

/-- The report of a problem. A pattern of several lines stands between rules, with numbers. -/
def report (pattern : List Char) (problem : Problem) (spans : List Span) : List Char :=
  let pieces := (spans.map fun s => (spot pattern s.first, spot pattern s.last)).mergeSort
    fun a b => a.1.line < b.1.line || (a.1.line = b.1.line && a.1.column ≤ b.1.column)
  let inLine (n : Nat) : List (Nat × Nat) := pieces.filterMap fun (a, b) =>
    if a.line = n && b.line = n then some (a.column, b.column) else none
  let heading := "regex parse error:\n".toList
  let ending := "error: ".toList ++ problem.message.toList
  if pattern.contains '\n' then
    let lines := linesOf pattern
    let count := lines.length + if pattern.getLast? = some '\n' then 1 else 0
    let width := (decimal count).length
    let margin (n : Nat) : List Char :=
      let number := decimal (n + 1)
      List.replicate (width - number.length) ' ' ++ number ++ [':', ' ']
    let rule := List.replicate 79 '~' ++ ['\n']
    let long := pieces.filter fun (a, b) => a.line ≠ b.line
    heading ++ rule ++ markedLines margin inLine 0 lines ++ rule ++
      long.flatMap (fun (a, b) => overLines a b) ++ ending
  else heading ++ markedLines (fun _ => "    ".toList) inLine 0 [pattern] ++ ending

def Fault.message (pattern : List Char) : Fault → String
  | mistake problem span earlier => String.ofList (report pattern problem (span :: earlier.toList))
  | undecidable => "error building NFA"

end ReporterBlocks.Pattern
