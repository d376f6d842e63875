import ReporterBlocks.Command.Console
import ReporterBlocks.Json.Writing
import ReporterBlocks.Session.Basic

/-!
# Showing blocks

The blocks that a host shows for the specifiers of a file: a line for each, or all as JSON.
-/

namespace ReporterBlocks.Command

def rowLine (r : Row) : String :=
  "[" ++ r.kind.code ++ "] " ++ padTo 40 r.template ++ " " ++ r.handler ++ "\n"

def rowJson (r : Row) : Json.Value :=
  .array [.string r.kind.code, .string r.template, .string r.handler]

def showRows (rows : List Row) (json : Bool) : String :=
  if json then Json.Writing.value 0 (.array (rows.map rowJson)) ++ "\n"
  else String.join (rows.map rowLine)

def showBlocks (filter : Log.Filter) (settings : Settings) (path : String)
    (contents : Except FileFault String) (json : Bool) : Output :=
  let loaded := (Session.start (κ := Empty) settings .empty).load path contents
  Output.log filter loaded.lines ++
    match loaded.answer with
    | .error f => Output.fail f.message
    | .ok _ => Output.print (showRows loaded.session.palette.rows json)

end ReporterBlocks.Command
