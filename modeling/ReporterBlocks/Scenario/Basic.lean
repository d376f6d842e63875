import ReporterBlocks.Settings
import ReporterBlocks.Value

/-!
# Scenarios

A scenario is a script of what a host does with a session, and of what must come of it. Callers are
known by tags.
-/

namespace ReporterBlocks

inductive Step where
  /-- Run the entry block. -/
  | reload (spec : String)
  /-- Run a call block. If an error is expected, the call must be refused with a message in which
  that text stands. -/
  | call (reporter : String) (args : List Value) (tag : Option String) (error : Option String)
  /-- Poll a reporter, which must be armed or not. -/
  | poll (reporter : String) (armed : Bool)
  /-- Read a parameter, which must have a value. -/
  | read (reporter : String) (index : Nat) (expected : Value)
  /-- Run a return block. -/
  | answer (reporter : String) (v : Value)

structure Scenario where
  description : Option String
  overlap : Overlap
  queueLimit : Option Nat
  /-- The specifiers of the predicates to define. -/
  predicates : List String
  steps : List Step
  /-- How many blocks the host must show in the end. -/
  expectBlocks : Option Nat
  /-- The tags of the callers that must be answered, in order, with the values they must get. -/
  expectDeliveries : Option (List (String × Value))

/-- The settings of the session that a scenario plays in. -/
def Scenario.settings (t : Scenario) : Settings :=
  { Settings.default with
    overlap := t.overlap
    queueLimit := t.queueLimit.getD Settings.default.queueLimit }

end ReporterBlocks
