import ReporterBlocks.Scenario.Front
import ReporterBlocks.Session.Basic

/-!
# Failures

The ways in which a scenario can fail, and the words for them.
-/

namespace ReporterBlocks

/-- What was wrong with a step. -/
inductive Mishap where
  /-- A block other than a call was refused. -/
  | refused (f : Fault)
  /-- A call was refused. -/
  | callRefused (f : Fault)
  /-- A call was refused, but for another reason than expected. -/
  | otherFault (expected : String) (f : Fault)
  /-- A call was not refused. -/
  | noFault (expected : String)
  | polled (reporter : String) (expected : Bool) (got : Outcome)
  | read (reporter : String) (index : Nat) (expected : Value) (got : Outcome)

def Mishap.message : Mishap → String
  | refused f => f.message
  | callRefused f => "unexpected error: " ++ f.message
  | otherFault expected f =>
    "expected error containing \"" ++ expected ++ "\", got: " ++ f.message
  | noFault expected => "expected error containing \"" ++ expected ++ "\", but the call succeeded"
  | polled reporter expected got =>
    "poll of \"" ++ reporter ++ "\": expected " ++ toString expected ++ ", got " ++ got.debug
  | read reporter index expected got =>
    "read #" ++ toString index ++ " of \"" ++ reporter ++ "\": expected " ++ expected.debug ++
      ", got " ++ got.debug

/-- Why a scenario failed. -/
inductive Failure where
  | unreadable (f : FileFault)
  | format (f : FormatFault)
  /-- Steps are counted from one. -/
  | step (number : Nat) (m : Mishap)
  | blocks (expected got : Nat)
  | deliveryCount (expected : Nat) (got : List (String × Value))
  /-- Deliveries are counted from zero. -/
  | delivery (index : Nat) (expected got : String × Value)

namespace Failure

def deliveryList (ds : List (String × Value)) : String :=
  if ds.isEmpty then "    (none)"
  else "\n".intercalate (ds.map fun (tag, v) => "  - " ++ tag ++ ": " ++ v.debug)

def message : Failure → String
  | unreadable f => "cannot read file: " ++ f.message
  | format f => f.message
  | step number m => "step " ++ toString number ++ ": " ++ m.message
  | blocks expected got => s!"expected {expected} live block(s), got {got}"
  | deliveryCount expected got =>
    s!"expected {expected} delivery(ies), got {got.length}\n  actual deliveries:\n" ++
      deliveryList got
  | delivery index expected got =>
    let shown (d : String × Value) : String := d.1 ++ " = " ++ d.2.debug
    s!"delivery[{index}]: expected " ++ shown expected ++ ", got " ++ shown got

end Failure

end ReporterBlocks
