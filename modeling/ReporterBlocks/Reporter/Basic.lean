import ReporterBlocks.Fault
import ReporterBlocks.Reporter.Cell
import ReporterBlocks.Settings

/-!
# Live reporters

A live reporter stands between callers, who wait for a value, and a host that runs scripts. A call
leaves its arguments in the cells and arms the reporter; the host polls and finds it armed; the
script reads the cells and answers; the answer goes to the caller that waits.

The operations below say how each of the four changes the state and what it answers. The lines that
an operation leaves in the log are functions of the state before it.
-/

namespace ReporterBlocks

/-- A caller that waits its turn. -/
structure Call (κ : Type) where
  args : List Value
  caller : κ

/-- A definition and its state; `κ` is what a caller is known by. -/
structure Reporter (κ : Type) where
  definition : Definition
  cells : List Cell
  /-- There is a call that no poll has reported. -/
  armed : Bool
  /-- The value of the latest answer. -/
  result : Value
  /-- The caller that the next answer goes to. -/
  pending : Option κ
  overlap : Overlap
  /-- The calls behind the pending one, the oldest first. -/
  queue : List (Call κ)
  queueLimit : Nat

namespace Reporter

variable {κ : Type}

/-- A reporter that has never been called. -/
def fresh (d : Definition) (overlap : Overlap) (queueLimit : Nat) : Reporter κ :=
  { definition := d
    cells := d.parameters.map Cell.ofParameter
    armed := false
    result := .empty
    pending := none
    overlap := overlap
    queue := []
    queueLimit := queueLimit }

def isPending (r : Reporter κ) : Bool := r.pending.isSome

def queued (r : Reporter κ) : Nat := r.queue.length

/-- Takes a call up: its arguments go to the cells, and its caller waits for the next answer. -/
def activate (r : Reporter κ) (c : Call κ) : Reporter κ :=
  { r with
    cells := Cell.writeAll r.cells c.args
    armed := true
    pending := some c.caller }

/-- Asks for the reporter's value. The call is refused unless it has one argument for each
parameter; with a caller waiting it takes over, queues or is refused. -/
def call (r : Reporter κ) (c : Call κ) : Except Fault (Reporter κ) :=
  if c.args.length ≠ r.cells.length then
    .error (.argumentCount r.definition.displayName r.cells.length c.args.length)
  else if r.isPending then
    match r.overlap with
    | .supersede => .ok (r.activate c)
    | .queue =>
      if r.queueLimit ≤ r.queued then
        .error (.queueFull r.definition.displayName r.queueLimit)
      else .ok { r with queue := r.queue ++ [c] }
  else .ok (r.activate c)

/-- Tells the host whether a call has been taken up since the last poll that said so. -/
def poll (r : Reporter κ) : Bool × Reporter κ := (r.armed, { r with armed := false })

/-- The argument that the script reads for a parameter. -/
def read (r : Reporter κ) (index : Nat) : Option Value := r.cells[index]?.map Cell.value

/-- What callers are handed when the script answers with `v`. -/
def resultOf (r : Reporter κ) (v : Value) : Value := r.definition.result.admit v

/-- Answers the pending caller, if there is one, and takes up the next call in the queue. -/
def answer (r : Reporter κ) (v : Value) : Option (κ × Value) × Reporter κ :=
  let result := r.resultOf v
  match r.pending with
  | none => (none, { r with result := result })
  | some caller =>
    let idle := { r with result := result, pending := none }
    (some (caller, result),
      match r.queue with
      | [] => idle
      | c :: cs => { idle with queue := cs }.activate c)

/-! ## The log -/

def line (r : Reporter κ) (level : Log.Level) (what : String) : Log.Line :=
  ⟨level, .reporter, r.definition.name ++ ": " ++ what⟩

def callLines (r : Reporter κ) (args : List Value) : List Log.Line :=
  let taken := Cell.writeLines r.cells args
  if args.length ≠ r.cells.length then []
  else if r.isPending then
    match r.overlap with
    | .supersede => r.line .debug "call supersedes a pending caller" :: taken
    | .queue =>
      if r.queueLimit ≤ r.queued then [r.line .debug "queue full, call rejected"]
      else [r.line .debug s!"call queued behind {r.queued + 1} pending"]
  else taken

def pollLines (r : Reporter κ) : List Log.Line :=
  if r.armed then [r.line .trace "definition triggered"] else []

def answerLines (r : Reporter κ) : List Log.Line :=
  if r.isPending then
    match r.queue with
    | [] => []
    | c :: _ => Cell.writeLines r.cells c.args
  else [r.line .debug "return with no pending caller"]

/-- The reporter as a report shows it. -/
def debug (r : Reporter κ) : String :=
  "ReporterInstance \x7b name: " ++ Text.quoted r.definition.name ++
    ", cells: [" ++ ", ".intercalate (r.cells.map Cell.debug) ++
    "], triggered: " ++ toString r.armed ++ ", result: " ++ r.result.debug ++
    ", state: " ++ (if r.isPending then "Pending" else "Idle") ++
    ", queued: " ++ toString r.queued ++ " \x7d"

end Reporter

end ReporterBlocks
