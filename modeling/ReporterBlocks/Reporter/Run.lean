import ReporterBlocks.Reporter.Basic

/-!
# Runs of a reporter

The four operations as data, what one of them does, and what a sequence of them does.
-/

namespace ReporterBlocks

/-- One operation on a reporter. -/
inductive Action (κ : Type) where
  | call (c : Call κ)
  | poll
  | read (index : Nat)
  | answer (v : Value)

/-- What an operation answers. -/
inductive Reply where
  | accepted
  | refused (f : Fault)
  | polled (armed : Bool)
  | value (v : Option Value)
  | answered

/-- An operation's reply, the callers it answered with their values, and the lines it logged. -/
structure Turn (κ : Type) where
  reply : Reply
  deliveries : List (κ × Value)
  lines : List Log.Line

namespace Reporter

variable {κ : Type}

def step (r : Reporter κ) : Action κ → Turn κ × Reporter κ
  | .call c =>
    match r.call c with
    | .ok r' => (⟨.accepted, [], r.callLines c.args⟩, r')
    | .error f => (⟨.refused f, [], r.callLines c.args⟩, r)
  | .poll => (⟨.polled r.poll.1, [], r.pollLines⟩, r.poll.2)
  | .read index => (⟨.value (r.read index), [], []⟩, r)
  | .answer v => (⟨.answered, (r.answer v).1.toList, r.answerLines⟩, (r.answer v).2)

/-- The turns of a sequence of operations and the state that it ends in. -/
def run (r : Reporter κ) : List (Action κ) → List (Turn κ) × Reporter κ
  | [] => ([], r)
  | a :: as =>
    let (turn, r') := r.step a
    let (turns, r'') := r'.run as
    (turn :: turns, r'')

end Reporter

end ReporterBlocks
