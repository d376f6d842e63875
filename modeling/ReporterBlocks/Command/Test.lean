import ReporterBlocks.Command.Console
import ReporterBlocks.Scenario.Collection
import ReporterBlocks.Scenario.Run

/-!
# Running scenarios

The scenarios of a file or of a folder are run category by category. What became of each is shown as
soon as it is known, and why some failed at the end; the exit code is zero only if none did.
-/

namespace ReporterBlocks.Command

/-- A scenario that was run. -/
structure Trial where
  path : String
  /-- How the scenario is called if it does not describe itself. -/
  stem : String
  verdict : Verdict

namespace Trial

def ofFile (path name : String) (contents : Except FileFault String) : Trial :=
  ⟨path, (splitFileName name).1, .ofFile contents⟩

def label (t : Trial) : String := t.verdict.description.getD t.stem

end Trial

/-- The trials of a category, under its name if it has a heading. -/
structure Section where
  heading : Option String
  trials : List Trial

/-- The name in a path. -/
def lastComponent (path : String) : String := ((FileTree.components path).getLast?).getD path

/-- A file by itself. -/
def Section.ofFile (path : String) (bytes : ByteArray) : Section :=
  ⟨none, [.ofFile path (lastComponent path) (FileTree.decode bytes)]⟩

def Section.ofCategory (root : String) (c : Category) : Section :=
  ⟨some c.label, c.files.map fun f => .ofFile (f.path root) f.name (FileTree.decode f.bytes)⟩

/-- A text in bold or in a colour. -/
def paint (colour : Bool) (code text : String) : String :=
  if colour then "\x1b[" ++ code ++ "m" ++ text ++ plainCode else text

def Trial.report (colour : Bool) (filter : Log.Filter) (t : Trial) : Output :=
  Output.log filter t.verdict.lines ++
    Output.complainLines ["  " ++
      (if t.verdict.passed then paint colour "32" "PASS" else paint colour "31" "FAIL") ++
      "  " ++ t.label]

def concat (outputs : List Output) : Output := outputs.foldl (· ++ ·) (Output.complain "")

def Section.report (colour : Bool) (filter : Log.Filter) (s : Section) : Output :=
  Output.complainLines (match s.heading with
    | none => []
    | some h => ["", paint colour "1" h]) ++
    concat (s.trials.map (Trial.report colour filter))

/-- Why a trial failed. -/
def Trial.reason (t : Trial) : List String :=
  match t.verdict.failure with
  | none => []
  | some f =>
    ["", "  --- " ++ t.path ++ " ---"] ++ (Text.lines f.message).map fun l => "  " ++ l

/-- Why trials failed, if any did. -/
def reasons (failed : List Trial) : List String :=
  if failed.isEmpty then [] else ["", "failures:"] ++ failed.flatMap Trial.reason

def summary (colour : Bool) (passed failed : Nat) : List String :=
  ["",
    if failed = 0 then
      "scenario result: " ++ paint colour "32" "ok" ++ s!". {passed} passed, 0 failed"
    else
      "scenario result: " ++ paint colour "31" "FAILED" ++
        s!". {passed} passed, {failed} failed (of {passed + failed})"]

/-- Reports on trials that were run. -/
def report (colour : Bool) (filter : Log.Filter) (sections : List Section) : Output :=
  let trials := sections.flatMap Section.trials
  let failed := trials.filter fun t => !t.verdict.passed
  let passed := trials.length - failed.length
  let out := concat (sections.map (Section.report colour filter)) ++
    Output.complainLines (reasons failed ++ summary colour passed failed.length)
  { out with exit := if failed.isEmpty then 0 else 1 }

def nothingUnder (path : String) : String := "no ." ++ scenarioEnding ++ " files under " ++ path

/-- The categories that are asked for; all of them if nothing is asked for. -/
def select (all : List Category) (asked : List String) : List Category :=
  if asked.isEmpty then all else all.filter fun c => asked.any c.isWithin

/-- Requests that no category meets. -/
def unmet (all : List Category) (asked : List String) : List String :=
  asked.filter fun a => !all.any fun c => c.isWithin a

def refuse (lines : List String) : Output := { Output.complainLines lines with exit := 1 }

/-- Runs the scenarios at a path. -/
def runScenarios (colour : Bool) (filter : Log.Filter) (path : String)
    (found : Except FileFault FileTree) (asked : List String) : Output :=
  match found with
  | .ok (.file bytes) => report colour filter [.ofFile path bytes]
  | .error _ => refuse [nothingUnder path]
  | .ok tree =>
    let all := Category.discover tree
    let asked := asked.map Category.request
    let warnings := (unmet all asked).map fun a => "warning: category '" ++ a ++ "' not found"
    let selected := select all asked
    if all.isEmpty then refuse [nothingUnder path]
    else if selected.isEmpty then refuse (warnings ++ ["no matching categories found"])
    else
      Output.complainLines warnings ++
        report colour filter (selected.map (Section.ofCategory path))

/-- Lists the categories at a path and how many files each has. -/
def listCategories (path : String) (found : Except FileFault FileTree) : Output :=
  let all := match found with
    | .ok tree => Category.discover tree
    | .error _ => []
  Output.complainLines ((if all.isEmpty then [nothingUnder path] else []) ++
    all.map fun c => padTo 24 c.label ++ " " ++ toString c.files.length)

end ReporterBlocks.Command
