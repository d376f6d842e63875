import ReporterBlocks.Log
import ReporterBlocks.Value

/-!
# Parameter cells

A cell holds the argument that a reporter's script reads for one parameter. The cell of a boolean
parameter keeps only the truth of what it is given.
-/

namespace ReporterBlocks

structure Cell where
  parameter : Parameter
  value : Value

namespace Cell

def ofParameter (p : Parameter) : Cell := ⟨p, .empty⟩

def write (c : Cell) (v : Value) : Cell := { c with value := c.parameter.kind.admit v }

/-- Writes one value to each cell in turn; without a value a cell stays as it is. -/
def writeAll : List Cell → List Value → List Cell
  | c :: cs, v :: vs => c.write v :: writeAll cs vs
  | cs, _ => cs

def writeLine (c : Cell) (v : Value) : Log.Line :=
  ⟨.trace, .cell, c.parameter.name ++ " = " ++ (c.write v).value.display⟩

/-- The lines that writing leaves, one for each cell written. -/
def writeLines (cs : List Cell) (vs : List Value) : List Log.Line := List.zipWith writeLine cs vs

/-- The word for a kind of value in the report on a cell. -/
def kindName : ValueKind → String
  | .reporter => "Reporter"
  | .boolean => "Boolean"

/-- The cell as a report shows it. -/
def debug (c : Cell) : String :=
  "ParameterCell \x7b name: " ++ Text.quoted c.parameter.name ++ ", kind: " ++
    kindName c.parameter.kind ++ ", value: " ++ c.value.debug ++ " \x7d"

end Cell

end ReporterBlocks
