/-!
# Options

The words of a command line: options by their long names or by single letters, and operands. Two
dashes alone end the options. An option that may be given once is refused the second time.
-/

namespace ReporterBlocks.Command

/-- Why the words of a command line ask for no activity of the program. -/
inductive Stop where
  | help
  | version
  | misuse
  deriving DecidableEq, Repr

inductive OptionKind where
  /-- Given or not. -/
  | flag
  /-- Has a value. -/
  | value
  /-- Has a value each time that it is given. -/
  | values
  /-- Ends everything. -/
  | stop (s : Stop)
  deriving DecidableEq, Repr

structure OptionRule where
  name : String
  letter : Option Char
  kind : OptionKind
  deriving DecidableEq, Repr

/-- An option with its value; that of a flag is empty. -/
structure Setting where
  name : String
  value : String
  deriving DecidableEq, Repr

structure Words where
  settings : List Setting
  operands : List String
  deriving DecidableEq, Repr

namespace Words

def has (w : Words) (name : String) : Bool := w.settings.any fun s => s.name = name

def values (w : Words) (name : String) : List String :=
  (w.settings.filter fun s => s.name = name).map Setting.value

def add (s : Setting) (w : Words) : Words := { w with settings := s :: w.settings }

end Words

/-- A word that is an option: its rule, and the value that is written in the same word. -/
structure Mention where
  rule : OptionRule
  attached : Option String

/-- An option by its long name, which an equals sign ends. -/
def longMention? (rules : List OptionRule) (cs : List Char) : Option Mention :=
  let name := cs.takeWhile (· ≠ '=')
  let attached := match cs.dropWhile (· ≠ '=') with
    | [] => none
    | _ :: v => some (String.ofList v)
  (rules.find? fun r => r.name = String.ofList name).map fun r => ⟨r, attached⟩

/-- An option by its letter; a value may follow it, with or without an equals sign. Behind the
letter of an option that ends everything, the rest of the word counts for nothing. -/
def shortMention? (rules : List OptionRule) (letter : Char) (cs : List Char) : Option Mention :=
  (rules.find? fun r => r.letter = some letter).map fun r =>
    match r.kind, cs with
    | .stop _, _ => ⟨r, none⟩
    | _, [] => ⟨r, none⟩
    | _, '=' :: v => ⟨r, some (String.ofList v)⟩
    | _, v => ⟨r, some (String.ofList v)⟩

inductive Word where
  | operand
  | ending
  /-- An option, if there is such a one. -/
  | option (m : Option Mention)

def Word.of (rules : List OptionRule) (a : String) : Word :=
  match a.toList with
  | ['-', '-'] => .ending
  | '-' :: '-' :: cs => .option (longMention? rules cs)
  | '-' :: c :: cs => .option (shortMention? rules c cs)
  | _ => .operand

/-- Whether a word can be the value of the option before it. -/
def canBeValue (a : String) : Bool :=
  match a.toList with
  | '-' :: _ :: _ => false
  | _ => true

/-- What may stand on a command line beside options. -/
inductive Operands where
  /-- The first word that is no option begins a part that is read by itself. -/
  | follow
  /-- So many words that are no options, which may be mixed with options. -/
  | among (room : Nat)

/-- Sorts the words of a command line by the rules; `seen` are the options given before. -/
def scanWords (rules : List OptionRule) (operands : Operands) (seen : List String) :
    List String → Except Stop Words
  | [] => .ok ⟨[], []⟩
  | a :: as =>
    match Word.of rules a with
    | .ending =>
      match operands with
      | .follow => .ok ⟨[], a :: as⟩
      | .among room => if as.length ≤ room then .ok ⟨[], as⟩ else .error .misuse
    | .operand =>
      match operands with
      | .follow => .ok ⟨[], a :: as⟩
      | .among 0 => .error .misuse
      | .among (room + 1) =>
        (scanWords rules (.among room) seen as).map fun w =>
          { w with operands := a :: w.operands }
    | .option none => .error .misuse
    | .option (some ⟨rule, attached⟩) =>
      let give (v : String) (rest : Except Stop Words) := rest.map (Words.add ⟨rule.name, v⟩)
      match rule.kind, attached with
      | .stop s, none => .error s
      | .stop _, some _ => .error .misuse
      | .flag, some _ => .error .misuse
      | .flag, none =>
        if seen.contains rule.name then .error .misuse
        else give "" (scanWords rules operands (rule.name :: seen) as)
      | kind, attached =>
        if kind = .value && seen.contains rule.name then .error .misuse
        else
          match attached with
          | some v => give v (scanWords rules operands (rule.name :: seen) as)
          | none =>
            match as with
            | [] => .error .misuse
            | v :: as =>
              if canBeValue v then give v (scanWords rules operands (rule.name :: seen) as)
              else .error .misuse

end ReporterBlocks.Command
