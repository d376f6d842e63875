import ReporterBlocks.Definition.SafeName
import ReporterBlocks.Definition.Template
import ReporterBlocks.Specifier.Reading

/-!
# Reporter definitions

What a specifier defines: a reporter or a predicate with a display name, a template for the blocks
that call it, a safe name, and one parameter for each slot.
-/

namespace ReporterBlocks

/-- How a value is read: as it is, or as a truth value. -/
inductive ValueKind where
  | reporter
  | boolean
  deriving DecidableEq, Repr

namespace ValueKind

def describe : ValueKind → String
  | reporter => "reporter"
  | boolean => "boolean"

/-- The slot through which a value of this kind is handed back. -/
def slot : ValueKind → SlotKind
  | reporter => .string
  | boolean => .boolean

end ValueKind

/-- Text and numbers are read as they are. -/
def SlotKind.valueKind : SlotKind → ValueKind
  | .string => .reporter
  | .number => .reporter
  | .boolean => .boolean

structure Parameter where
  name : String
  kind : ValueKind
  /-- The kind of slot that declares the parameter. -/
  slot : SlotKind
  deriving DecidableEq, Repr

/-- The parameter that a piece declares. -/
def Piece.parameter? : Piece → Option Parameter
  | .label _ => none
  | .slot kind name => some ⟨name, kind.valueKind, kind⟩

structure Definition where
  displayName : String
  callTemplate : Template
  /-- The safe form of the display name, which identifies the reporter. -/
  name : String
  parameters : List Parameter
  result : ValueKind
  deriving DecidableEq, Repr

namespace Definition

/-- The text of the block that holds the reporter's script. -/
def displayText (ps : List Piece) : String := String.join (ps.map Piece.display)

def ofPieces (ps : List Piece) (result : ValueKind) : Definition :=
  { displayName := displayText ps
    callTemplate := Template.ofPieces ps
    name := safeName (displayText ps)
    parameters := ps.filterMap Piece.parameter?
    result := result }

def ofText (spec : String) (result : ValueKind) : Definition :=
  ofPieces (Specifier.read 0 spec).pieces result

/-- What a text defines as a reporter. -/
def reporter (spec : String) : Definition := ofText spec .reporter

/-- What a text defines as a predicate. -/
def predicate (spec : String) : Definition := ofText spec .boolean

def arity (d : Definition) : Nat := d.parameters.length

end Definition

end ReporterBlocks
