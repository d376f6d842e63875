import ReporterBlocks.Definition.Basic

/-!
# Block rows

The host is shown a table of blocks. Each row gives the shape of a block, its template, and the name
of the handler that runs it. A definition has a row for the block that holds its script, one for the
block that calls it, one for the block that hands its value back, and one for each parameter.
-/

namespace ReporterBlocks

inductive BlockKind where
  | hat
  | command
  | reporter
  | predicate
  /-- A reporter whose value comes later. -/
  | waitingReporter
  /-- A predicate whose value comes later. -/
  | waitingPredicate
  deriving DecidableEq, Repr

namespace BlockKind

/-- The host's code for a shape. -/
def code : BlockKind → String
  | hat => "h"
  | command => " "
  | reporter => "r"
  | predicate => "b"
  | waitingReporter => "R"
  | waitingPredicate => "B"

end BlockKind

/-- The shape of a block that reads a value. -/
def ValueKind.reading : ValueKind → BlockKind
  | reporter => .reporter
  | boolean => .predicate

/-- The shape of a block that waits for a value. -/
def ValueKind.waiting : ValueKind → BlockKind
  | reporter => .waitingReporter
  | boolean => .waitingPredicate

structure Row where
  kind : BlockKind
  template : String
  handler : String
  deriving DecidableEq, Repr

namespace HandlerName

/-- The block that defines a reporter while the program runs. -/
def reload : String := "parseReporter"

def poll (name : String) : String := "defr_" ++ name

def call (name : String) : String := "callr_" ++ name

def answer (name : String) : String := "retr_" ++ name

def read (name : String) (index : Nat) : String := "argr_" ++ name ++ "_" ++ toString index

end HandlerName

namespace Row

/-- The row that is there before anything is defined. -/
def entry : Row := ⟨.command, "reload reporter %s", HandlerName.reload⟩

end Row

namespace Definition

def hatRow (d : Definition) : Row := ⟨.hat, "define " ++ d.displayName, HandlerName.poll d.name⟩

def callRow (d : Definition) : Row :=
  ⟨d.result.waiting, d.callTemplate.toText, HandlerName.call d.name⟩

def answerRow (d : Definition) : Row :=
  ⟨.command, "return " ++ d.result.slot.token ++ " for " ++ d.displayName,
    HandlerName.answer d.name⟩

def readRow (d : Definition) (index : Nat) (p : Parameter) : Row :=
  ⟨p.kind.reading, p.name ++ " of " ++ d.displayName, HandlerName.read d.name index⟩

def rows (d : Definition) : List Row :=
  d.hatRow :: d.callRow :: d.answerRow :: d.parameters.mapIdx d.readRow

end Definition

end ReporterBlocks
