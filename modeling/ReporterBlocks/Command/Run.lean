import ReporterBlocks.Command.Arguments
import ReporterBlocks.Command.Blocks
import ReporterBlocks.Command.Parse
import ReporterBlocks.Command.Test
import ReporterBlocks.Settings.Toml

/-!
# A run of the program

From the words of a command line and what stands around to what is put out. Settings are read before
anything else is done.
-/

namespace ReporterBlocks.Command

def programName : String := "blockspec"

def versionNumber : String := "0.1.0"

def usage : String :=
  "usage: " ++ programName ++ " [--no-color] [--config FILE] ACTIVITY\n\n" ++
    "  parse SPECIFIER [--predicate]\n" ++
    "      show what a specifier defines\n" ++
    "  blocks FILE [--json]\n" ++
    "      show the blocks for the specifiers of a file\n" ++
    "  test PATH [-c CATEGORY]... [--list-categories]\n" ++
    "      run scenarios, or list their categories\n"

/-- What is put out where nothing is done. -/
def Stop.output : Stop → Output
  | .help => Output.print usage
  | .version => Output.print (programName ++ " " ++ versionNumber ++ "\n")
  | .misuse => { Output.complain usage with exit := 2 }

/-- The settings in a file, or why there are none. -/
def readSettings (look : String → Except FileFault FileTree) (path : String) :
    Except String Settings :=
  match FileTree.textOf (look path) with
  | .error f => .error ("cannot read '" ++ path ++ "': " ++ f.message)
  | .ok text =>
    match Settings.ofToml? text with
    | none => .error ("invalid config '" ++ path ++ "'")
    | some s => .ok s

/-- Colour is wanted from a terminal of a known kind. -/
def terminalHasColour (terminal : Option String) : Bool :=
  match terminal with
  | none => false
  | some t => t ≠ "dumb"

def perform (around : Surroundings) (filter : Log.Filter) (a : Arguments) (settings : Settings) :
    Output :=
  match a.activity with
  | .parse spec predicate =>
    showSpecifier (!a.noColor && terminalHasColour around.terminal) filter spec predicate
  | .blocks file json =>
    showBlocks filter settings file (FileTree.textOf (around.look file)) json
  | .test path asked list =>
    if list then listCategories path (around.look path)
    else runScenarios (!a.noColor) filter path (around.look path) asked

def run (around : Surroundings) (words : List String) : Output :=
  let (filter, complaints) := Log.Filter.read (around.logSpec.getD "")
  Output.complainLines (complaints.map fun c => "warning: " ++ c ++ ", ignoring it") ++
    match Arguments.read words with
    | .error stop => stop.output
    | .ok a =>
      match a.config.mapM (readSettings around.look) with
      | .error message => Output.fail message
      | .ok settings => perform around filter a (settings.getD .default)

end ReporterBlocks.Command
