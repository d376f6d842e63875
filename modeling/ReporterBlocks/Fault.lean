import ReporterBlocks.Text.Quoted

/-!
# Faults

The ways in which a request of the host can be refused.
-/

namespace ReporterBlocks

/-- Why a file could not be read. -/
inductive FileFault where
  | missing
  | isFolder
  | notFolder
  | denied
  /-- The path, or a name in it, is too long. -/
  | longName
  /-- The path holds a null character. -/
  | nullInName
  | notText
  deriving DecidableEq, Repr

def FileFault.message : FileFault → String
  | missing => "No such file or directory (os error 2)"
  | isFolder => "Is a directory (os error 21)"
  | notFolder => "Not a directory (os error 20)"
  | denied => "Permission denied (os error 13)"
  | longName => "File name too long (os error 36)"
  | nullInName => "file name contained an unexpected NUL byte"
  | notText => "stream did not contain valid UTF-8"

inductive Fault where
  | unknownHandler (handler : String)
  | argumentCount (handler : String) (expected got : Nat)
  | parameterOutOfBounds (reporter : String) (index : Nat)
  | queueFull (reporter : String) (limit : Nat)
  | missingCompletion (handler : String)
  | input (detail : String)
  deriving DecidableEq, Repr

namespace Fault

def message : Fault → String
  | unknownHandler handler => "unknown handler: " ++ handler
  | argumentCount handler expected got =>
    s!"{handler} expects {expected} argument(s), got {got}"
  | parameterOutOfBounds reporter index =>
    s!"parameter index {index} out of bounds for {reporter}"
  | queueFull reporter limit => s!"{reporter} already has {limit} call(s) queued"
  | missingCompletion handler => handler ++ " needs a completion callback"
  | input detail => "I/O error: " ++ detail

/-- The word for the kind of fault. -/
def kind : Fault → String
  | unknownHandler _ => "UnknownHandler"
  | argumentCount .. => "ArgumentCount"
  | parameterOutOfBounds .. => "ParameterOutOfBounds"
  | queueFull .. => "QueueFull"
  | missingCompletion _ => "MissingCompletion"
  | input _ => "IoError"

/-- The kind and its fields as a report shows them. -/
def debug (f : Fault) : String :=
  let single (s : String) := "(" ++ Text.quoted s ++ ")"
  let fields (fs : List (String × String)) :=
    " \x7b " ++ ", ".intercalate (fs.map fun (name, text) => name ++ ": " ++ text) ++ " \x7d"
  f.kind ++
    match f with
    | unknownHandler handler => single handler
    | argumentCount handler expected got =>
      fields [("handler", Text.quoted handler), ("expected", toString expected),
        ("got", toString got)]
    | parameterOutOfBounds reporter index =>
      fields [("reporter", Text.quoted reporter), ("index", toString index)]
    | queueFull reporter limit =>
      fields [("reporter", Text.quoted reporter), ("limit", toString limit)]
    | missingCompletion handler => single handler
    | input detail => single detail

/-- A file at `path` that could not be read. -/
def ofFile (path : String) (f : FileFault) : Fault :=
  .input ("cannot read '" ++ path ++ "': " ++ f.message)

end Fault

end ReporterBlocks
