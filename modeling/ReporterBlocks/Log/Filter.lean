import ReporterBlocks.Log
import ReporterBlocks.Pattern.Meaning
import ReporterBlocks.Text.Blank
import ReporterBlocks.Text.Cut

/-!
# Log filters

A filter lets through the lines that a user asks for. It is written as directives with commas
between them, each a level, a part of the program, or both; after a slash follows a pattern that
must stand in the message. Of the directives for a part of the program, the one that names most of
it counts.
-/

namespace ReporterBlocks.Log

structure Directive where
  /-- How the name of a part must begin; without it, every part is meant. -/
  path : Option String
  /-- The least urgent level let through; without it, nothing is. -/
  limit : Option Level
  deriving DecidableEq, Repr

structure Filter where
  directives : List Directive
  /-- What must stand in a message. -/
  pattern : Option Pattern
  deriving DecidableEq, Repr

namespace Directive

def admits (d : Directive) (l : Level) : Bool :=
  match d.limit with
  | none => false
  | some limit => l.rank ≤ limit.rank

def isFor (d : Directive) (path : String) : Bool :=
  match d.path with
  | none => true
  | some p => p.toList.isPrefixOf path.toList

/-- How much of a name the directive names. -/
def weight (d : Directive) : Nat := (d.path.getD "").utf8ByteSize

/-- The limit of a word in capital or small letters: none if it is no such word. -/
def limit? (word : String) : Option (Option Level) :=
  match String.ofList (word.toList.map Char.toUpper) with
  | "OFF" => some none
  | "ERROR" => some (some .error)
  | "WARN" => some (some .warn)
  | "INFO" => some (some .info)
  | "DEBUG" => some (some .debug)
  | "TRACE" => some (some .trace)
  | _ => none

/-- A directive without white space around it, or the part of it that cannot be meant. A name alone
lets everything through. -/
def read (text : List Char) : Except String Directive :=
  match Text.piecesAt '=' text with
  | [word] =>
    match limit? (String.ofList word) with
    | some limit => .ok ⟨none, limit⟩
    | none => .ok ⟨some (String.ofList word), some .trace⟩
  | [name, word] =>
    match Text.trim word with
    | [] => .ok ⟨some (String.ofList name), some .trace⟩
    | word =>
      match limit? (String.ofList word) with
      | some limit => .ok ⟨some (String.ofList name), limit⟩
      | none => .error (String.ofList word)
  | _ => .error (String.ofList text)

end Directive

namespace Filter

/-- Adds a directive, in the place of one for the same part. -/
def insert (ds : List Directive) (d : Directive) : List Directive :=
  if ds.any fun e => e.path = d.path then ds.map fun e => if e.path = d.path then d else e
  else ds ++ [d]

/-- Errors pass where nothing else is asked for. -/
def default : List Directive := [⟨none, some .error⟩]

def complaint (part : String) : String := "invalid logging spec '" ++ part ++ "'"

/-- The pattern after the slash, or a complaint about it. -/
def readPattern (text : List Char) : Except String Pattern :=
  (Pattern.read text).mapError fun f => "invalid regex filter - " ++ f.message text

/-- The filter that a text asks for, and complaints about what it cannot mean, which is left out. -/
def read (text : String) : Filter × List String :=
  match Text.piecesAt '/' text.toList with
  | front :: rest =>
    if 1 < rest.length then (⟨default, none⟩, [complaint text ++ " (too many '/'s)"])
    else
      let parts := ((Text.piecesAt ',' front).map Text.trim).filter (· ≠ [])
      let readings := parts.map Directive.read
      let directives := (readings.filterMap Except.toOption).foldl insert []
      let complaints := readings.filterMap fun r =>
        match r with
        | .error part => some (complaint part)
        | .ok _ => none
      let directives := if directives = [] then default else directives
      match rest.head?.map readPattern with
      | none => (⟨directives, none⟩, complaints)
      | some (.ok p) => (⟨directives, some p⟩, complaints)
      | some (.error e) => (⟨directives, none⟩, complaints ++ [e])
  | [] => (⟨default, none⟩, [])

/-- The directive that counts for a part: of those that name most of it, the last. -/
def directiveFor? (f : Filter) (path : String) : Option Directive :=
  (f.directives.mergeSort fun a b => a.weight ≤ b.weight).reverse.find? fun d => d.isFor path

def passes (f : Filter) (l : Line) : Bool :=
  (f.directiveFor? l.origin.path).any (fun d => d.admits l.level) &&
    f.pattern.all fun p => p.occursIn l.message

end Filter

/-- A line as it is printed. Further lines of the message are moved in by four spaces. -/
def Line.display (l : Line) : String :=
  let level := l.level.name ++ String.ofList (List.replicate (5 - l.level.name.length) ' ')
  let message := l.message.toList.flatMap fun c => if c = '\n' then "\n    ".toList else [c]
  "[" ++ level ++ " " ++ l.origin.path ++ "] " ++ String.ofList message

end ReporterBlocks.Log
