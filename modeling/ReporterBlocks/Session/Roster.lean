import ReporterBlocks.Block.Row
import ReporterBlocks.Reporter.Basic

/-!
# The roster

All live reporters of an extension in the order of their definition, the table of their blocks, and
what the handler of each block does. Reporters are never taken off the roster, so a number stays
that of the same reporter.
-/

namespace ReporterBlocks

/-- What the handler of a block does; reporters are known by their place in the roster. -/
inductive Handler where
  | reload
  | poll (id : Nat)
  | call (id : Nat)
  | answer (id : Nat)
  | read (id : Nat) (index : Nat)
  deriving DecidableEq, Repr

/-- The handler as a report shows it. -/
def Handler.debug : Handler → String
  | reload => "Reload"
  | poll id => s!"HatPoll(InstanceId({id}))"
  | call id => s!"Call(InstanceId({id}))"
  | answer id => s!"Return(InstanceId({id}))"
  | read id index => s!"ParamRead(InstanceId({id}), {index})"

structure Roster (κ : Type) where
  reporters : List (Reporter κ)
  rows : List Row
  /-- Handlers by name. The first of two with one name is the one that counts. -/
  handlers : List (String × Handler)
  overlap : Overlap
  queueLimit : Nat

namespace Roster

variable {κ : Type}

def empty (overlap : Overlap) (queueLimit : Nat) : Roster κ :=
  { reporters := []
    rows := [Row.entry]
    handlers := [(HandlerName.reload, .reload)]
    overlap := overlap
    queueLimit := queueLimit }

/-- The reporter of a safe name. -/
def lookup (s : Roster κ) (name : String) : Option Nat :=
  s.reporters.findIdx? fun r => r.definition.name = name

def handler? (s : Roster κ) (name : String) : Option Handler := s.handlers.lookup name

def size (s : Roster κ) : Nat := s.reporters.length

/-- The handlers of the blocks of a definition. -/
def handlersOf (id : Nat) (d : Definition) : List (String × Handler) :=
  (HandlerName.poll d.name, .poll id) :: (HandlerName.call d.name, .call id) ::
    (HandlerName.answer d.name, .answer id) ::
    (List.range d.arity).map fun index => (HandlerName.read d.name index, .read id index)

/-- Adds a reporter, unless there is one of that name. -/
def register? (s : Roster κ) (d : Definition) : Option (Roster κ) :=
  match s.lookup d.name with
  | some _ => none
  | none =>
    some { s with
      reporters := s.reporters ++ [.fresh d s.overlap s.queueLimit]
      rows := s.rows ++ d.rows
      handlers := s.handlers ++ handlersOf s.size d }

/-- Puts a reporter in the place of the one that is there. -/
def put (s : Roster κ) (id : Nat) (r : Reporter κ) : Roster κ :=
  { s with reporters := s.reporters.set id r }

/-- The line that registering leaves. -/
def registerLine (s : Roster κ) (d : Definition) : Log.Line :=
  ⟨.debug, .roster,
    match s.lookup d.name with
    | some _ => d.name ++ " already registered"
    | none => s!"registered {d.displayName} ({d.arity} parameter(s))"⟩

end Roster

end ReporterBlocks
