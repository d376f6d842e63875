import ReporterBlocks.Session.Basic

/-!
# Runs of a session

What the user and the host of a session can do as data, what one such operation does, and what a
sequence of them does.
-/

namespace ReporterBlocks

/-- One operation on a session. -/
inductive Operation (κ : Type) where
  | reload (spec : String)
  | definePredicate (spec : String)
  /-- Load what was read at a path. -/
  | load (path : String) (contents : Except FileFault String)
  | find (spec : String)
  | invoke (handler : String) (args : List Value) (caller : Option κ)
  | pollAll

/-- What an operation answers. -/
inductive Response where
  | registered (new : Bool)
  | loaded (count : Except Fault Nat)
  | found (id : Option Nat)
  | ran (outcome : Except Fault Outcome)
  | fired (ids : List Nat)

namespace Session

variable {κ : Type}

def step (s : Session κ) : Operation κ → Effect κ Response
  | .reload spec => (s.reload spec).map .registered
  | .definePredicate spec => (s.definePredicate spec).map .registered
  | .load path contents => (s.load path contents).map .loaded
  | .find spec => s.quiet (.found (s.find spec))
  | .invoke handler args caller => (s.invoke handler args caller).map .ran
  | .pollAll => s.pollAll.map .fired

/-- The effect of a sequence of operations; the answer lists theirs. -/
def run (s : Session κ) : List (Operation κ) → Effect κ (List Response)
  | [] => s.quiet []
  | o :: os =>
    let first := s.step o
    first.andThen fun s => (run s os).map fun answers => first.answer :: answers

end Session

end ReporterBlocks
