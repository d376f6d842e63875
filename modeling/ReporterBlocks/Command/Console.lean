import ReporterBlocks.FileTree
import ReporterBlocks.Log.Filter

/-!
# The console

What a run of the program finds around it, and what it leaves: texts on the two output streams and
an exit code.
-/

namespace ReporterBlocks.Command

structure Surroundings where
  /-- What stands at a path. -/
  look : String → Except FileFault FileTree
  /-- The filter of the log, as written. -/
  logSpec : Option String
  /-- The kind of terminal. -/
  terminal : Option String

structure Output where
  exit : Nat
  stdout : String
  stderr : String
  deriving DecidableEq, Repr

namespace Output

def print (s : String) : Output := ⟨0, s, ""⟩

def complain (s : String) : Output := ⟨0, "", s⟩

/-- Lines on the error stream. -/
def complainLines (ls : List String) : Output := complain (String.join (ls.map fun l => l ++ "\n"))

/-- A message and the exit code of a failure. -/
def fail (message : String) : Output := ⟨1, "", "error: " ++ message ++ "\n"⟩

/-- One output after another; the exit code is that of the second. -/
def append (a b : Output) : Output := ⟨b.exit, a.stdout ++ b.stdout, a.stderr ++ b.stderr⟩

instance : Append Output := ⟨append⟩

/-- The lines of the log that the filter lets through. -/
def log (filter : Log.Filter) (lines : List Log.Line) : Output :=
  complainLines ((lines.filter filter.passes).map Log.Line.display)

end Output

/-! ## Colours -/

/-- Ends all styles. -/
def plainCode : String := "\x1b[0m"

/-- Texts in a row, each with the codes of its style. Without colour the codes are left out. -/
def styled (colour : Bool) (runs : List (String × String)) : String :=
  if colour then String.join (runs.map fun (codes, text) => plainCode ++ codes ++ text) ++ plainCode
  else String.join (runs.map Prod.snd)

/-! ## Columns -/

/-- Fills a text up to a width with spaces. -/
def padTo (width : Nat) (s : String) : String :=
  s ++ String.ofList (List.replicate (width - s.length) ' ')

end ReporterBlocks.Command
