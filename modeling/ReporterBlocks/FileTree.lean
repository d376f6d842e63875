import ReporterBlocks.Fault
import ReporterBlocks.Text.Cut

/-!
# File trees

The files that the program can see, as a tree of folders. A path names a place in it; an empty
component and `.` stand for the folder itself, and `..` for the one around it. The folders around
the tree are there, but nothing in them can be seen.
-/

namespace ReporterBlocks

inductive FileTree where
  | file (bytes : ByteArray)
  | folder (entries : List (String × FileTree))

namespace FileTree

def empty : FileTree := folder []

/-- The text of a file. -/
def decode (bytes : ByteArray) : Except FileFault String :=
  match String.fromUTF8? bytes with
  | some s => .ok s
  | none => .error .notText

/-- The components of a path, with empty ones where two separators meet or one ends the path. -/
def components (path : String) : List String :=
  (Text.piecesAt '/' path.toList).map String.ofList

/-- How many bytes a name may have. -/
def longestName : Nat := 255

/-- How many bytes a path may have. -/
def longestPath : Nat := 4095

/-- Follows components from a place inside the folders `around`, the innermost first. -/
def walk (around : List FileTree) (here : FileTree) : List String → Except FileFault FileTree
  | [] => .ok here
  | c :: cs =>
    match here with
    | file _ => .error .notFolder
    | folder entries =>
      if c = "" || c = "." then walk around here cs
      else if c = ".." then
        match around with
        | [] => walk [] empty cs
        | outer :: around => walk around outer cs
      else
        match entries.lookup c with
        | none => .error (if longestName < c.utf8ByteSize then .longName else .missing)
        | some inner => walk (here :: around) inner cs

/-- What a path names. An absolute one starts outside the tree. -/
def find (t : FileTree) (path : String) : Except FileFault FileTree :=
  if path.toList.contains '\x00' then .error .nullInName
  else if longestPath < path.utf8ByteSize then .error .longName
  else
    match components path with
    | [""] => .error .missing
    | "" :: cs => walk [] empty cs
    | cs => walk [] t cs

/-- The text of what was found at a path. -/
def textOf (found : Except FileFault FileTree) : Except FileFault String :=
  match found with
  | .error f => .error f
  | .ok (file bytes) => decode bytes
  | .ok (folder _) => .error .isFolder

/-- Puts a file, or an empty folder where there is none, at the end of a chain of folders. -/
def insertAt (t : FileTree) (bytes : Option ByteArray) : List String → FileTree
  | [] =>
    match bytes, t with
    | some b, _ => file b
    | none, folder entries => folder entries
    | none, file _ => empty
  | c :: cs =>
    let entries := match t with
      | folder entries => entries
      | file _ => []
    let inner := ((entries.lookup c).getD empty).insertAt bytes cs
    folder (entries.filter (fun e => e.1 ≠ c) ++ [(c, inner)])

/-- Adds a file at a path; a path that ends in a separator adds a folder. -/
def insert (t : FileTree) (path : String) (bytes : ByteArray) : FileTree :=
  let cs := components path
  let isFolder := cs.getLast? = some ""
  t.insertAt (if isFolder then none else some bytes) (cs.filter fun c => c ≠ "" && c ≠ ".")

end FileTree

end ReporterBlocks
