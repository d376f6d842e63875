/-!
# Log lines

Every activity can leave lines in a log, each with a level and the part of the program that wrote
it.
-/

namespace ReporterBlocks.Log

/-- From the most to the least urgent. -/
inductive Level where
  | error
  | warn
  | info
  | debug
  | trace
  deriving DecidableEq, Repr

namespace Level

def name : Level → String
  | error => "ERROR"
  | warn => "WARN"
  | info => "INFO"
  | debug => "DEBUG"
  | trace => "TRACE"

/-- How much is let through by a filter at this level. -/
def rank : Level → Nat
  | error => 1
  | warn => 2
  | info => 3
  | debug => 4
  | trace => 5

end Level

/-- The part of the program that wrote a line. -/
inductive Origin where
  | specifier
  | roster
  | reporter
  | cell
  | session
  deriving DecidableEq, Repr

/-- The name that filters know a part by. -/
def Origin.path : Origin → String
  | specifier => "blockspec::parser"
  | roster => "runtime::registry"
  | reporter => "runtime::instance"
  | cell => "runtime::parameter"
  | session => "runtime::extension"

structure Line where
  level : Level
  origin : Origin
  message : String
  deriving DecidableEq, Repr

end ReporterBlocks.Log
