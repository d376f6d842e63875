import ReporterBlocks.Session.Palette
import ReporterBlocks.Session.Roster
import ReporterBlocks.Text.Lines

/-!
# Sessions

An extension at work: its settings, its roster of live reporters, and the palette in which the host
shows their blocks. The host runs a block by naming its handler.
-/

namespace ReporterBlocks

structure Session (κ : Type) where
  settings : Settings
  roster : Roster κ
  palette : Palette

/-- What an activity of a session comes to: the session after it, its answer, the callers it
answered with their values, and the lines it logged. -/
structure Effect (κ : Type) (α : Type) where
  session : Session κ
  answer : α
  deliveries : List (κ × Value)
  lines : List Log.Line

/-- The same effect with another answer. -/
def Effect.map {κ α β : Type} (f : α → β) (e : Effect κ α) : Effect κ β :=
  ⟨e.session, f e.answer, e.deliveries, e.lines⟩

/-- One activity and then another, which starts from the session that the first leaves. The answer
is that of the second. -/
def Effect.andThen {κ α β : Type} (first : Effect κ α) (next : Session κ → Effect κ β) :
    Effect κ β :=
  let second := next first.session
  ⟨second.session, second.answer, first.deliveries ++ second.deliveries,
    first.lines ++ second.lines⟩

/-- What running a block answers. -/
inductive Outcome where
  /-- The block has done its work. -/
  | done
  /-- What a poll found. -/
  | triggered (armed : Bool)
  /-- The value that was read. -/
  | value (v : Value)
  /-- The caller is answered later. -/
  | pending

namespace Outcome

def beq : Outcome → Outcome → Bool
  | done, done => true
  | triggered a, triggered b => a = b
  | value v, value w => v == w
  | pending, pending => true
  | _, _ => false

instance : BEq Outcome := ⟨beq⟩

/-- The outcome as a report shows it. -/
def debug : Outcome → String
  | done => "Done"
  | triggered armed => "Triggered(" ++ toString armed ++ ")"
  | value v => "Value(" ++ v.debug ++ ")"
  | pending => "Pending"

end Outcome

/-- The specifiers that a text lists, one on a line. Blank lines and those that begin with `#` are
left out. -/
def specifierLines (text : String) : List String :=
  ((Text.lines text).map fun l => Text.dropEnd (· = '\r') l.toList).filter
    (fun l => match Text.trim l with
      | [] => false
      | c :: _ => c ≠ '#')
  |>.map String.ofList

namespace Session

variable {κ : Type}

/-- Shows the blocks of the roster in place of those that were shown. -/
def refresh (s : Session κ) : Session κ :=
  { s with
    palette := (s.palette.unregister s.settings.name).register s.settings.name s.roster.rows }

def start (settings : Settings) (palette : Palette) : Session κ :=
  refresh ⟨settings, .empty settings.overlap settings.queueLimit, palette⟩

/-- An activity that changes nothing and leaves nothing. -/
def quiet {α : Type} (s : Session κ) (answer : α) : Effect κ α := ⟨s, answer, [], []⟩

/-- Adds a definition to the roster. The answer tells whether it was new. -/
def install (s : Session κ) (d : Definition) : Effect κ Bool :=
  let lines := [s.roster.registerLine d]
  match s.roster.register? d with
  | none => ⟨s, false, [], lines⟩
  | some roster => ⟨refresh { s with roster := roster }, true, [], lines⟩

/-- Defines a reporter. -/
def reload (s : Session κ) (spec : String) : Effect κ Bool := s.install (.reporter spec)

/-- Defines a predicate. -/
def definePredicate (s : Session κ) (spec : String) : Effect κ Bool := s.install (.predicate spec)

/-- Defines reporters in turn. The answer counts the new ones. -/
def reloadAll (s : Session κ) : List String → Effect κ Nat
  | [] => s.quiet 0
  | spec :: specs =>
    let first := s.reload spec
    first.andThen fun s => (reloadAll s specs).map fun n => (if first.answer then 1 else 0) + n

/-- Defines a reporter for each specifier that a file lists. -/
def load (s : Session κ) (path : String) (contents : Except FileFault String) :
    Effect κ (Except Fault Nat) :=
  match contents with
  | .error f => s.quiet (.error (.ofFile path f))
  | .ok text =>
    let specs := specifierLines text
    let loaded := s.reloadAll specs
    let known := specs.length - loaded.answer
    let summary : Log.Line := ⟨.info, .session,
      s!"loaded {loaded.answer} reporter(s) from {path} ({known} already known)"⟩
    ⟨loaded.session, .ok loaded.answer, loaded.deliveries, loaded.lines ++ [summary]⟩

/-- The reporter that a specifier is known as. -/
def find (s : Session κ) (spec : String) : Option Nat :=
  s.roster.lookup (Definition.reporter spec).name

def refuse (s : Session κ) (f : Fault) : Effect κ (Except Fault Outcome) :=
  s.quiet (.error f)

/-- Runs an activity on the reporter in a place of the roster. -/
def onReporter (s : Session κ) (handler : String) (id : Nat)
    (f : Reporter κ → Effect κ (Except Fault Outcome)) : Effect κ (Except Fault Outcome) :=
  match s.roster.reporters[id]? with
  | none => s.refuse (.unknownHandler handler)
  | some r => f r

def put (s : Session κ) (id : Nat) (r : Reporter κ) : Session κ :=
  { s with roster := s.roster.put id r }

/-- Runs the block of a handler. A call needs to know its caller. -/
def invoke (s : Session κ) (handler : String) (args : List Value) (caller : Option κ) :
    Effect κ (Except Fault Outcome) :=
  match s.roster.handler? handler with
  | none => s.refuse (.unknownHandler handler)
  | some .reload =>
    match args with
    | [spec] => (s.reload spec.display).map fun _ => .ok .done
    | args => s.refuse (.argumentCount handler 1 args.length)
  | some (.poll id) => s.onReporter handler id fun r =>
    ⟨s.put id r.poll.2, .ok (.triggered r.poll.1), [], r.pollLines⟩
  | some (.call id) =>
    match caller with
    | none => s.refuse (.missingCompletion handler)
    | some caller => s.onReporter handler id fun r =>
      match r.call ⟨args, caller⟩ with
      | .error f => ⟨s, .error f, [], r.callLines args⟩
      | .ok r' => ⟨s.put id r', .ok .pending, [], r.callLines args⟩
  | some (.answer id) =>
    match args with
    | [v] => s.onReporter handler id fun r =>
      ⟨s.put id (r.answer v).2, .ok .done, (r.answer v).1.toList, r.answerLines⟩
    | args => s.refuse (.argumentCount handler 1 args.length)
  | some (.read id index) => s.onReporter handler id fun r =>
    match r.read index with
    | some v => s.quiet (.ok (.value v))
    | none => s.refuse (.parameterOutOfBounds r.definition.displayName index)

/-- Polls every reporter. The answer lists those that were armed. -/
def pollAll (s : Session κ) : Effect κ (List Nat) :=
  { session := { s with roster :=
      { s.roster with reporters := s.roster.reporters.map fun r => r.poll.2 } }
    answer := (List.range s.roster.size).filter fun id =>
      (s.roster.reporters[id]?).any Reporter.armed
    deliveries := []
    lines := s.roster.reporters.flatMap Reporter.pollLines }

/-- A session is ready as soon as it is there. -/
def status (_ : Session κ) : Nat × String := (2, "Ready")

end Session

end ReporterBlocks
