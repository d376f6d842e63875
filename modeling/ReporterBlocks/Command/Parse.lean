import ReporterBlocks.Command.Snippet
import ReporterBlocks.Definition.Basic

/-!
# Showing a specifier

The definition of a specifier goes to the output stream, what was logged and warned about to the
error stream.
-/

namespace ReporterBlocks.Command

/-- The definition of a specifier in words. -/
def describe (s : Specifier) (d : Definition) : List String :=
  ["fragments:"] ++
    (s.pieces.map fun p => "  " ++ padTo 14 p.describe ++ " " ++ Text.quoted p.text) ++
    ["display name:  " ++ Text.quoted d.displayName,
      "call template: " ++ Text.quoted d.callTemplate.toText,
      "escaped name:  " ++ d.name,
      "result:        " ++ d.result.describe,
      "parameters:"] ++
    d.parameters.mapIdx fun index p =>
      "  #" ++ toString index ++ " " ++ p.name ++ " (" ++ p.kind.describe ++ ")"

def showSpecifier (colour : Bool) (filter : Log.Filter) (text : String) (predicate : Bool) :
    Output :=
  let s := Specifier.read 0 text
  let d := Definition.ofPieces s.pieces (if predicate then .boolean else .reporter)
  Output.log filter (s.logLines text) ++
    Output.complain (String.join (s.reports.map (Snippet.render colour text))) ++
    Output.print (String.join ((describe s d).map fun l => l ++ "\n"))

end ReporterBlocks.Command
