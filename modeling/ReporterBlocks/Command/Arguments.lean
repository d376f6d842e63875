import ReporterBlocks.Command.Options

/-!
# Arguments

What the words of a command line ask the program to do.
-/

namespace ReporterBlocks.Command

/-- What the program can do. -/
inductive Activity where
  /-- Read a specifier and show what it defines. -/
  | parse (spec : String) (predicate : Bool)
  /-- Load a file of specifiers and show the blocks. -/
  | blocks (file : String) (json : Bool)
  /-- Run scenarios, or list their categories. -/
  | test (path : String) (categories : List String) (list : Bool)
  deriving DecidableEq, Repr

structure Arguments where
  noColor : Bool
  /-- A file with settings. -/
  config : Option String
  activity : Activity
  deriving DecidableEq, Repr

namespace Arguments

def helpRule : OptionRule := ⟨"help", some 'h', .stop .help⟩

/-- The options that may stand anywhere. -/
def commonRules : List OptionRule :=
  [⟨"no-color", none, .flag⟩, ⟨"config", none, .value⟩, helpRule]

/-- The options before the name of an activity. -/
def leadingRules : List OptionRule := ⟨"version", some 'V', .stop .version⟩ :: commonRules

def parseRules : List OptionRule := ⟨"predicate", none, .flag⟩ :: commonRules

def blocksRules : List OptionRule := ⟨"json", none, .flag⟩ :: commonRules

def testRules : List OptionRule :=
  ⟨"category", some 'c', .values⟩ :: ⟨"list-categories", none, .flag⟩ :: commonRules

/-- The activities and what they do with their one operand. -/
def ofWords (leading own : Words) (activity : String → Activity) : Except Stop Arguments :=
  match own.operands with
  | [operand] =>
    .ok
      { noColor := leading.has "no-color" || own.has "no-color"
        config := (own.values "config").head? <|> (leading.values "config").head?
        activity := activity operand }
  | _ => .error .misuse

/-- What is asked for about the activities in general. -/
def ofHelp : List String → Stop
  | [] => .help
  | [name] => if ["parse", "blocks", "test", "help"].contains name then .help else .misuse
  | _ => .misuse

/-- Options that stand both before and after the name of an activity count where they stand
after it. -/
def read (words : List String) : Except Stop Arguments := do
  let leading ← scanWords leadingRules .follow [] words
  match leading.operands with
  | "parse" :: rest => do
    let own ← scanWords parseRules (.among 1) [] rest
    ofWords leading own fun spec => .parse spec (own.has "predicate")
  | "blocks" :: rest => do
    let own ← scanWords blocksRules (.among 1) [] rest
    ofWords leading own fun file => .blocks file (own.has "json")
  | "test" :: rest => do
    let own ← scanWords testRules (.among 1) [] rest
    ofWords leading own fun path => .test path (own.values "category") (own.has "list-categories")
  | "help" :: names => .error (ofHelp names)
  | _ => .error .misuse

/-- The files that must be looked at. -/
def paths (a : Arguments) : List String :=
  a.config.toList ++
    match a.activity with
    | .parse .. => []
    | .blocks file _ => [file]
    | .test path .. => [path]

end Arguments

end ReporterBlocks.Command
