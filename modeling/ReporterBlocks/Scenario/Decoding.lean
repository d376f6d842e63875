import ReporterBlocks.Scenario.Basic
import ReporterBlocks.Scenario.Front
import ReporterBlocks.Settings.Toml
import ReporterBlocks.Toml.Spelled
import ReporterBlocks.Toml.Writing

/-!
# Scenarios in TOML

A step is a table that names its operation under `op`, or an array of the operation and its fields
in order. Keys that mean nothing are passed over.
-/

namespace ReporterBlocks

/-- A value that stands for a TOML value; what is no text, number or truth value is given as
written. -/
def Value.ofResolved : Toml.Value → Value
  | .integer n => .number (Double.ofInt n)
  | .float x => .number x
  | .boolean b => .boolean b
  | .string s => .text s
  | v => .text (Toml.Writing.document v)

def Value.ofToml? (rest : Toml.Rest) (v : Toml.Value) : Option Value :=
  (v.resolve? rest).map Value.ofResolved

namespace Step

def value? (v : Toml.Value) : Option Value := Value.ofToml? .refused v

def values? (v : Toml.Value) : Option (List Value) := do (← v.array?).mapM value?

/-- The fields of each operation in order. -/
def fieldNames : String → List String
  | "reload" => ["spec"]
  | "call" => ["reporter", "args", "tag", "expect_error"]
  | "poll" => ["reporter", "expect"]
  | "read" => ["reporter", "param", "expect"]
  | "return" => ["reporter", "value"]
  | _ => []

def ofFields? (op : String) (t : Toml.Table) : Option Step :=
  let reporter : Option String := t.field "reporter" Toml.Value.string? none
  let value (key : String) : Option Value := t.lookup key >>= value?
  match op with
  | "reload" => do some (.reload (← t.field "spec" Toml.Value.string? none))
  | "call" => do
    some (.call (← reporter) (← t.field "args" values? (some []))
      (← t.field? "tag" Toml.Value.string?) (← t.field? "expect_error" Toml.Value.string?))
  | "poll" => do some (.poll (← reporter) (← t.field "expect" Toml.Value.boolean? none))
  | "read" => do
    some (.read (← reporter) (← t.field "param" Toml.Value.natural? none) (← value "expect"))
  | "return" => do some (.answer (← reporter) (← value "value"))
  | _ => none

def ofTable? (t : Toml.Table) : Option Step := do
  ofFields? (← t.field "op" Toml.Value.string? none) t

def ofToml? : Toml.Value → Option Step
  | .table t => ofTable? t
  | .array (.string op :: vs) =>
    let names := fieldNames op
    if vs.length ≤ names.length then ofFields? op (names.zip vs) else none
  | _ => none

end Step

namespace Scenario

def value? (v : Toml.Value) : Option Value := Value.ofToml? .passed v

def deliveryOfTable? (t : Toml.Table) : Option (String × Value) := do
  some (← t.field "tag" Toml.Value.string? none, ← value? (← t.lookup "value"))

/-- An expected delivery is a table with a tag and a value, or an array that begins with them. -/
def delivery? : Toml.Value → Option (String × Value)
  | .table t => deliveryOfTable? t
  | .array (.string tag :: v :: _) => (value? v).map fun v => (tag, v)
  | _ => none

/-- An array of which every item is understood. -/
def listOf {α : Type} (read : Toml.Value → Option α) (v : Toml.Value) : Option (List α) := do
  (← v.array?).mapM read

def ofTable? (t : Toml.Table) : Option Scenario := do
  some
    { description := ← t.field? "description" Toml.Value.string?
      overlap := ← t.field "overlap" Overlap.ofToml? (some Settings.default.overlap)
      queueLimit := ← t.field? "queue_limit" Toml.Value.natural?
      predicates := ← t.field "predicates" (listOf Toml.Value.string?) (some [])
      steps := ← t.field "steps" (listOf Step.ofToml?) (some [])
      expectBlocks := ← t.field? "expect_blocks" Toml.Value.natural?
      expectDeliveries := ← t.field? "expect_deliveries" (listOf delivery?) }

/-- The scenario in a front matter. What is none is refused without a reason. -/
def ofFront (front : List Char) : Except String Scenario :=
  match Toml.parse front >>= ofTable? with
  | none => .error ""
  | some t => .ok t

/-- A scenario and the text after its front matter. -/
def ofText (text : String) : Except FormatFault (Scenario × String) :=
  (Front.split ofFront text.toList).map fun (t, body) => (t, String.ofList body)

end Scenario

end ReporterBlocks
