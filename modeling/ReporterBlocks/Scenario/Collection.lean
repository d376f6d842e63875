import ReporterBlocks.FileTree
import ReporterBlocks.Text.Blank

/-!
# Collections of scenario files

The scenario files of a folder are found at any depth. The folder that a file stands in gives its
category, by which files are grouped and selected.
-/

namespace ReporterBlocks

namespace FileTree

mutual

/-- The files of a tree, each with the names on the way to it, its own name last. -/
def files : FileTree → List (List String × ByteArray)
  | file bytes => [([], bytes)]
  | folder entries => entryFiles entries

def entryFiles : List (String × FileTree) → List (List String × ByteArray)
  | [] => []
  | (name, t) :: rest =>
    (t.files.map fun (way, bytes) => (name :: way, bytes)) ++ entryFiles rest

end

end FileTree

/-- The name of a file up to its last point, and what follows; a point at the beginning is part of
the name. -/
def splitFileName (name : String) : String × Option String :=
  let cs := name.toList.reverse
  let suffix := (cs.takeWhile (· ≠ '.')).reverse
  match (cs.dropWhile (· ≠ '.')).drop 1 with
  | [] => (name, none)
  | stem => (String.ofList stem.reverse, some (String.ofList suffix))

/-- The ending of the names of scenario files. -/
def scenarioEnding : String := "scenario"

def isScenarioName (name : String) : Bool := (splitFileName name).2 = some scenarioEnding

/-- A file by the way to it from the folder that is searched. -/
structure ScenarioFile where
  folders : List String
  name : String
  bytes : ByteArray

/-- The order of ways: by the first names in which they differ. -/
def wayLe : List String → List String → Bool
  | [], _ => true
  | _ :: _, [] => false
  | a :: as, b :: bs => if a = b then wayLe as bs else a ≤ b

namespace ScenarioFile

def way (f : ScenarioFile) : List String := f.folders ++ [f.name]

/-- The folder that the file stands in; a backslash counts as a separator of folders. -/
def category (f : ScenarioFile) : String :=
  String.ofList (("/".intercalate f.folders).toList.map fun c => if c = '\\' then '/' else c)

/-- A file that `FileTree.files` gives, if it is one of a scenario. -/
def of? (found : List String × ByteArray) : Option ScenarioFile :=
  match found.1.getLast? with
  | none => none
  | some name => if isScenarioName name then some ⟨found.1.dropLast, name, found.2⟩ else none

/-- The path of the file if the folder that is searched has the given path. -/
def path (root : String) (f : ScenarioFile) : String :=
  root ++ (if root.toList.getLast? = some '/' then "" else "/") ++ "/".intercalate f.way

end ScenarioFile

/-- The files of one category, in order of their names. -/
structure Category where
  name : String
  files : List ScenarioFile

namespace Category

/-- The categories of scenario files, in order of their names. -/
def ofFiles (files : List ScenarioFile) : List Category :=
  let names := (files.map ScenarioFile.category).eraseDups.mergeSort fun a b => a ≤ b
  names.map fun name =>
    ⟨name, (files.filter fun f => f.category = name).mergeSort fun f g => wayLe f.way g.way⟩

/-- The categories of the scenario files in a folder. -/
def discover : FileTree → List Category
  | .file _ => []
  | .folder entries => ofFiles ((FileTree.entryFiles entries).filterMap ScenarioFile.of?)

/-- What a user asks for, without the separators around it. -/
def request (text : String) : String :=
  String.ofList (Text.dropEnd (· = '/') (text.toList.dropWhile (· = '/')))

/-- Whether a category is the one asked for or stands inside it. -/
def isWithin (c : Category) (asked : String) : Bool :=
  c.name = asked || (asked ++ "/").toList.isPrefixOf c.name.toList

/-- How a category is shown. -/
def label (c : Category) : String := if c.name = "" then "(root)" else c.name

end Category

end ReporterBlocks
