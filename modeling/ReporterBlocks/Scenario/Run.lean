import ReporterBlocks.Scenario.Decoding
import ReporterBlocks.Scenario.Failure

/-!
# Playing a scenario

A scenario is played in a session of its own. It passes if every step goes as expected and so do the
blocks and the deliveries at the end; otherwise the first thing that does not is why it fails.
-/

namespace ReporterBlocks

namespace Step

/-- The safe name of the reporter that a specifier names. -/
def nameOf (reporter : String) : String := (Definition.reporter reporter).name

/-- What is wrong with the answer to a call. -/
def callMishap? (expected : Option String) (answer : Except Fault Outcome) : Option Mishap :=
  match answer, expected with
  | .ok _, none => none
  | .ok _, some e => some (.noFault e)
  | .error f, none => some (.callRefused f)
  | .error f, some e => if Text.occursIn e f.message then none else some (.otherFault e f)

/-- What is wrong with the answer to another block; `judge` says what is wrong with an outcome. -/
def mishap? (judge : Outcome → Option Mishap) : Except Fault Outcome → Option Mishap
  | .error f => some (.refused f)
  | .ok o => judge o

/-- Plays a step. The answer is what went wrong. A call without a tag is tagged by its number. -/
def play (number : Nat) (s : Session String) : Step → Effect String (Option Mishap)
  | reload spec => (s.invoke HandlerName.reload [.text spec] none).map (mishap? fun _ => none)
  | call reporter args tag error =>
    (s.invoke (HandlerName.call (nameOf reporter)) args (some (tag.getD s!"step{number}"))).map
      (callMishap? error)
  | poll reporter armed =>
    (s.invoke (HandlerName.poll (nameOf reporter)) [] none).map (mishap? fun o =>
      if o == .triggered armed then none else some (.polled reporter armed o))
  | read reporter index expected =>
    (s.invoke (HandlerName.read (nameOf reporter) index) [] none).map (mishap? fun o =>
      if o == .value expected then none else some (.read reporter index expected o))
  | answer reporter v =>
    (s.invoke (HandlerName.answer (nameOf reporter)) [v] none).map (mishap? fun _ => none)

/-- Plays steps up to the first that goes wrong; `number` is that of the first one. -/
def playAll (number : Nat) (s : Session String) : List Step → Effect String (Option Failure)
  | [] => s.quiet none
  | step :: steps =>
    let first := step.play number s
    match first.answer with
    | some m => first.map fun _ => some (.step number m)
    | none => first.andThen fun s => playAll (number + 1) s steps

end Step

namespace Scenario

/-- Defines predicates in turn. -/
def definePredicates (s : Session String) : List String → Effect String Unit
  | [] => s.quiet ()
  | spec :: specs => (s.definePredicate spec).andThen fun s => definePredicates s specs

/-- What is wrong with the number of blocks. -/
def blocksFailure? (t : Scenario) (got : Nat) : Option Failure :=
  match t.expectBlocks with
  | none => none
  | some expected => if got = expected then none else some (.blocks expected got)

/-- The first delivery that is not the expected one. -/
def firstMismatch? (index : Nat) :
    List (String × Value) → List (String × Value) → Option Failure
  | expected :: es, got :: gs =>
    if expected.1 = got.1 && got.2 == expected.2 then firstMismatch? (index + 1) es gs
    else some (.delivery index expected got)
  | _, _ => none

/-- What is wrong with the deliveries. -/
def deliveriesFailure? (t : Scenario) (got : List (String × Value)) : Option Failure :=
  match t.expectDeliveries with
  | none => none
  | some expected =>
    if got.length = expected.length then firstMismatch? 0 expected got
    else some (.deliveryCount expected.length got)

/-- The session in which the reporters of `body` and then the predicates have been defined. -/
def prepare (t : Scenario) (body : String) : Effect String Unit :=
  ((Session.start t.settings .empty).reloadAll (specifierLines body)).andThen fun s =>
    definePredicates s t.predicates

/-- Plays a scenario. The answer is why it failed, if it did. -/
def play (t : Scenario) (body : String) : Effect String (Option Failure) :=
  let played := (t.prepare body).andThen fun s => Step.playAll 1 s t.steps
  played.map fun failure =>
    failure <|> t.blocksFailure? played.session.palette.rows.length <|>
      t.deliveriesFailure? played.deliveries

end Scenario

/-- What became of a scenario file. -/
structure Verdict where
  description : Option String
  failure : Option Failure
  /-- What was logged while the scenario was played. -/
  lines : List Log.Line

namespace Verdict

def passed (v : Verdict) : Bool := v.failure.isNone

/-- The verdict on what was read from a file. -/
def ofFile (contents : Except FileFault String) : Verdict :=
  match contents with
  | .error f => ⟨none, some (.unreadable f), []⟩
  | .ok text =>
    match Scenario.ofText text with
    | .error f => ⟨none, some (.format f), []⟩
    | .ok (t, body) =>
      let played := t.play body
      ⟨t.description, played.answer, played.lines⟩

end Verdict

end ReporterBlocks
