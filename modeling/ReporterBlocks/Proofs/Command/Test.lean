import ReporterBlocks.Command.Test
import ReporterBlocks.Proofs.Scenario.Collection
import ReporterBlocks.Proofs.Scenario.Verdict
import ReporterBlocks.Proofs.Text.Lines

/-! # Which scenarios are run, and what is said of them

Every run of scenarios either refuses, with nothing run, or reports on trials (`Tested`).  In
a folder the trials are of the files that are asked for (`Selected`), each once and in order.

A file passes if it is the text of a scenario that is fulfilled (`Passes`), and that is what
the trial of it finds (`passed_iff_passes`).  So the exit code and the counts tell the truth
of the files (`Tested.told`).
-/

namespace ReporterBlocks.Command

/-! ## Requests -/

/-- The request is the name of a folder, with separators around it or without. -/
def Requests (r name : String) : Prop :=
  ∃ m n, r.toList = List.replicate m '/' ++ (name.toList ++ List.replicate n '/') ∧
    name.toList.head? ≠ some '/' ∧ name.toList.getLast? ≠ some '/'

/-- **What is asked for**: a folder and all inside it, or every folder if there is no request. -/
def Asked (requests : List String) (folder : String) : Prop :=
  requests = [] ∨ ∃ r ∈ requests, ∃ name, Requests r name ∧
    (folder = name ∨ (name ++ "/").toList <+: folder.toList)

theorem request_of_requests {r name : String} (h : Requests r name) :
    Category.request r = name := by
  obtain ⟨m, n, hr, hhead, hlast⟩ := h
  have hslashes (n : Nat) : ∀ c ∈ List.replicate n '/', decide (c = '/') = true :=
    fun c hc => decide_eq_true (List.eq_of_mem_replicate hc)
  have hname : (name.toList ++ List.replicate n '/').dropWhile (· = '/') =
      name.toList ++ List.replicate n '/' ∨ name.toList = [] := by
    cases hcs : name.toList with
    | nil => exact Or.inr rfl
    | cons c cs =>
      refine Or.inl (List.dropWhile_cons_of_neg fun hc => hhead ?_)
      rw [hcs, List.head?_cons, of_decide_eq_true hc]
  rw [Category.request, hr, List.dropWhile_append_of_pos (hslashes m)]
  rcases hname with hname | hname
  · rw [hname, Text.dropEnd_append (hslashes n), Text.dropEnd_of_getLast?, String.ofList_toList]
    exact fun c hc => decide_eq_false fun he => hlast (he ▸ hc)
  · have hnone : (List.replicate n '/').dropWhile (· = '/') = [] := by
      rw [← List.append_nil (List.replicate n '/'), List.dropWhile_append_of_pos (hslashes n)]
      rfl
    rw [hname, List.nil_append, hnone, ← String.ofList_toList (s := name), hname]
    rfl

theorem requests_request (r : String) : Requests r (Category.request r) := by
  let slash : Char → Bool := (· = '/')
  let inner := r.toList.dropWhile slash
  have hslashes {l : List Char} (hl : ∀ c ∈ l, slash c = true) :
      l = List.replicate l.length '/' :=
    List.eq_replicate_of_mem fun c hc => of_decide_eq_true (hl c hc)
  have hrequest : (Category.request r).toList = inner.rdropWhile slash := String.toList_ofList
  refine ⟨(r.toList.takeWhile slash).length, (inner.rtakeWhile slash).length, ?_, ?_, ?_⟩
  · calc r.toList = r.toList.takeWhile slash ++ inner := List.takeWhile_append_dropWhile.symm
      _ = r.toList.takeWhile slash ++ (inner.rdropWhile slash ++ inner.rtakeWhile slash) := by
        rw [List.rdropWhile_append_rtakeWhile]
      _ = _ := by
        rw [hrequest, ← hslashes fun c hc => List.mem_takeWhile_imp hc,
          ← hslashes fun c hc => List.mem_rtakeWhile_imp hc]
  · rw [hrequest]
    intro hhead
    -- what is left at the front begins what was left there before the end was cut
    have hinner : inner.head? = some '/' := by
      rw [← List.rdropWhile_append_rtakeWhile (p := slash) (l := inner), List.head?_append, hhead]
      rfl
    have hnot := List.head?_dropWhile_not slash r.toList
    rw [hinner] at hnot
    exact absurd hnot (by decide)
  · rw [hrequest]
    exact fun hlast => absurd (Text.getLast?_dropEnd _ _ _ hlast) (by decide)

/-- Requests are met as they are stripped of their separators. -/
theorem asked_iff {requests : List String} {folder : String} :
    Asked requests folder ↔ requests = [] ∨ ∃ r ∈ requests,
      folder = Category.request r ∨ (Category.request r ++ "/").toList <+: folder.toList := by
  refine or_congr_right (exists_congr fun r => and_congr_right fun _ => ?_)
  constructor
  · rintro ⟨name, hname, hfolder⟩
    rwa [request_of_requests hname]
  · exact fun hfolder => ⟨_, requests_request r, hfolder⟩

instance (requests : List String) (folder : String) : Decidable (Asked requests folder) :=
  decidable_of_iff _ asked_iff.symm

theorem isWithin_iff {c : Category} {r : String} :
    c.isWithin r = true ↔ c.name = r ∨ (r ++ "/").toList <+: c.name.toList := by
  rw [Category.isWithin, Bool.or_eq_true, decide_eq_true_eq, List.isPrefixOf_iff_prefix]

section Select
variable (all : List Category) (requests : List String)

theorem select_sublist (asked : List String) : (select all asked).Sublist all := by
  rw [select]
  split
  · exact .refl _
  · exact List.filter_sublist

theorem mem_select {c : Category} :
    c ∈ select all (requests.map Category.request) ↔ c ∈ all ∧ Asked requests c.name := by
  by_cases hnone : requests = []
  · simp [select, asked_iff, hnone]
  · have hmap : ¬ (requests.map Category.request).isEmpty = true := by simpa using hnone
    rw [select, if_neg hmap, List.mem_filter, List.any_map, List.any_eq_true]
    simp [asked_iff, hnone, isWithin_iff]

end Select

/-- The files of a folder that requests ask for, each once and in order. -/
structure Selected (entries : List (String × FileTree)) (requests : List String)
    (files : List ScenarioFile) : Prop where
  mem_iff : ∀ f, f ∈ files ↔
    FileTree.Holds (.folder entries) f.way f.bytes ∧
      (∃ stem, stem ≠ "" ∧ f.name = stem ++ "." ++ "scenario") ∧ Asked requests f.folder
  ordered : files.Pairwise ScenarioFile.Before
  nodup : files.Nodup

/-- Requests determine the files. -/
theorem Selected.unique {entries : List (String × FileTree)} {requests : List String}
    {files files' : List ScenarioFile} (h : Selected entries requests files)
    (h' : Selected entries requests files') : files = files' := by
  have hperm : files.Perm files' := (List.perm_ext_iff_of_nodup h.nodup h'.nodup).mpr fun f =>
    (h.mem_iff f).trans (h'.mem_iff f).symm
  exact hperm.eq_of_pairwise (fun f g _ _ hfg hgf => absurd hgf hfg.asymm) h.ordered h'.ordered

theorem selected_select {entries : List (String × FileTree)} (requests : List String)
    (h : (FileTree.folder entries).Proper) :
    Selected entries requests
      ((select (Category.discover (.folder entries)) (requests.map Category.request)).flatMap
        Category.files) := by
  rw [Category.discover_folder]
  have hsublist := select_sublist (Category.ofFiles (FileTree.scenarioFiles entries))
    (requests.map Category.request)
  have hproper {f : ScenarioFile} (hf : f ∈ FileTree.scenarioFiles entries) :=
    FileTree.properName_of_mem_scenarioFiles h hf
  have hordered := Category.pairwise_flatMap_files hsublist (FileTree.nodup_scenarioFiles h)
    fun f hf => hproper hf
  refine ⟨fun f => ?_, hordered, hordered.imp ScenarioFile.Before.ne⟩
  have hname := isScenarioName_iff f.name
  rw [scenarioEnding] at hname
  rw [Category.mem_flatMap_files hsublist, ← hname, ← and_assoc, ← FileTree.mem_scenarioFiles]
  refine and_congr_right fun hf => ?_
  rw [← ScenarioFile.category_eq (hproper hf)]
  constructor
  · rintro ⟨c, hc, hname⟩
    rw [hname]
    exact ((mem_select _ _).mp hc).2
  · intro hasked
    obtain ⟨c, hc, hname⟩ := Category.exists_category hf
    rw [hname] at hasked
    exact ⟨c, (mem_select _ _).mpr ⟨hc, hasked⟩, hname⟩

/-! ## Trials -/

/-- **A file passes** if it is the text of a scenario that is fulfilled. -/
def Passes (bytes : ByteArray) : Prop :=
  ∃ text t body, String.fromUTF8? bytes = some text ∧ Scenario.ofText text = .ok (t, body) ∧
    t.Fulfilled body

theorem passed_iff_passes (bytes : ByteArray) :
    (Verdict.ofFile (FileTree.decode bytes)).passed = true ↔ Passes bytes := by
  cases htext : String.fromUTF8? bytes with
  | none =>
    have hdecode : FileTree.decode bytes = .error .notText := by rw [FileTree.decode, htext]
    rw [hdecode]
    refine iff_of_false Bool.false_ne_true ?_
    rintro ⟨text, t, body, hsome, -⟩
    cases htext.symm.trans hsome
  | some text =>
    have hdecode : FileTree.decode bytes = .ok text := by rw [FileTree.decode, htext]
    rw [hdecode, Verdict.passed, Verdict.ofFile]
    cases hscenario : Scenario.ofText text with
    | error f =>
      refine iff_of_false Bool.false_ne_true ?_
      rintro ⟨text', t, body, hsome, hok, -⟩
      cases htext.symm.trans hsome
      cases hscenario.symm.trans hok
    | ok scenario =>
      obtain ⟨t, body⟩ := scenario
      rw [Option.isNone_iff_eq_none, t.answer_play_eq_none_iff body]
      constructor
      · exact fun hfulfilled => ⟨text, t, body, htext, hscenario, hfulfilled⟩
      · rintro ⟨text', t', body', hsome, hok, hfulfilled⟩
        cases htext.symm.trans hsome
        cases hscenario.symm.trans hok
        exact hfulfilled

instance (bytes : ByteArray) : Decidable (Passes bytes) :=
  decidable_of_iff _ (passed_iff_passes bytes)

/-- **What is run** at a path: a file that is found there, or the files of a folder.  Each
stands with its path. -/
inductive Chosen (path : String) (requests : List String) :
    Except FileFault FileTree → List (String × ByteArray) → Prop
  | nothing (fault : FileFault) : Chosen path requests (.error fault) []
  | file (bytes : ByteArray) : Chosen path requests (.ok (.file bytes)) [(path, bytes)]
  | folder {entries : List (String × FileTree)} {files : List ScenarioFile}
      (hfiles : Selected entries requests files) :
      Chosen path requests (.ok (.folder entries)) (files.map fun f => (f.path path, f.bytes))

/-- The trial is one of the file. -/
structure Tries (file : String × ByteArray) (t : Trial) : Prop where
  path : t.path = file.1
  verdict : t.verdict = .ofFile (FileTree.decode file.2)
  passed_iff : t.verdict.passed = true ↔ Passes file.2

theorem tries_ofFile (path name : String) (bytes : ByteArray) :
    Tries (path, bytes) (.ofFile path name (FileTree.decode bytes)) :=
  ⟨rfl, rfl, passed_iff_passes bytes⟩

/-- **What a run leaves**: a refusal if there are no files, and otherwise a report on trials,
one of each file in order. -/
inductive Tested (colour : Bool) (filter : Log.Filter) :
    List (String × ByteArray) → Output → Prop
  | refused (lines : List String) : Tested colour filter [] (refuse lines)
  | reported (warnings : List String) {sections : List Section}
      {files : List (String × ByteArray)}
      (htrials : List.Forall₂ Tries files (sections.flatMap Section.trials))
      (hsome : files ≠ []) :
      Tested colour filter files (Output.complainLines warnings ++ report colour filter sections)

/-- The line that ends a report. -/
def tally (colour : Bool) (passed failed : Nat) : String :=
  "scenario result: " ++
    (if failed = 0 then paint colour "32" "ok" else paint colour "31" "FAILED") ++ ". " ++
    toString passed ++ " passed, " ++ toString failed ++ " failed" ++
    (if failed = 0 then "" else " (of " ++ toString (passed + failed) ++ ")")

/-- **What the output tells of files**: whether there are any and all pass, and how many pass
and how many do not. -/
structure Told (colour : Bool) (files : List (String × ByteArray)) (out : Output) : Prop where
  exit_eq_zero_iff : out.exit = 0 ↔ files ≠ [] ∧ ∀ f ∈ files, Passes f.2
  exit_eq_one_iff : out.exit = 1 ↔ ¬ (files ≠ [] ∧ ∀ f ∈ files, Passes f.2)
  counted : files ≠ [] → ∃ before passed failed,
    out.stderr = before ++ (tally colour passed failed ++ "\n") ∧
      passed = files.countP (fun f => Passes f.2) ∧ passed + failed = files.length

section Tried
variable {files : List (String × ByteArray)} {trials : List Trial}
  (h : List.Forall₂ Tries files trials)
include h

theorem forall_passed_iff :
    (∀ t ∈ trials, t.verdict.passed = true) ↔ ∀ f ∈ files, Passes f.2 := by
  induction h with
  | nil => simp
  | cons htries _ ih => rw [List.forall_mem_cons, List.forall_mem_cons, htries.passed_iff, ih]

theorem countP_passed :
    trials.countP (fun t => t.verdict.passed) = files.countP fun f => Passes f.2 := by
  induction h with
  | nil => rfl
  | @cons f t _ _ htries _ ih =>
    have hpassed : t.verdict.passed = decide (Passes f.2) :=
      Bool.eq_iff_iff.mpr (htries.passed_iff.trans decide_eq_true_iff.symm)
    rw [List.countP_cons, List.countP_cons, ih, hpassed]

end Tried

theorem Output.complainLines_append (ls ls' : List String) :
    (complainLines (ls ++ ls')).stderr =
      (complainLines ls).stderr ++ (complainLines ls').stderr := by
  simp [complainLines, complain, String.join_append]

section Report
variable (colour : Bool) (filter : Log.Filter) (sections : List Section)

theorem exit_report : (report colour filter sections).exit =
    if ∀ t ∈ sections.flatMap Section.trials, t.verdict.passed = true then 0 else 1 := by
  have hempty : (sections.flatMap Section.trials).filter (fun t => !t.verdict.passed) = [] ↔
      ∀ t ∈ sections.flatMap Section.trials, t.verdict.passed = true := by
    simp [List.filter_eq_nil_iff]
  simp only [report, List.isEmpty_iff, hempty]

theorem summary_eq (passed failed : Nat) :
    summary colour passed failed = ["", tally colour passed failed] := by
  have htext (s : String) : toString s = s := rfl
  unfold summary tally
  by_cases hfailed : failed = 0
  · have hnone : " passed, 0 failed" = " passed, " ++ (toString 0 ++ " failed") := by decide
    simp only [hfailed, if_true, hnone, htext, String.append_assoc, String.append_empty]
  · have hopen : " failed (of " = " failed" ++ " (of " := by decide
    simp only [if_neg hfailed, hopen, htext, String.append_assoc]

theorem stderr_summary (passed failed : Nat) :
    (Output.complainLines (summary colour passed failed)).stderr =
      "\n" ++ (tally colour passed failed ++ "\n") := by
  simp [summary_eq, Output.complainLines, Output.complain]

/-- The report ends in a tally, and those that did not pass failed. -/
theorem stderr_report : ∃ before failed, (report colour filter sections).stderr = before ++
    (tally colour ((sections.flatMap Section.trials).countP fun t => t.verdict.passed) failed ++
      "\n") ∧
    ((sections.flatMap Section.trials).countP fun t => t.verdict.passed) + failed =
      (sections.flatMap Section.trials).length := by
  generalize htrials : sections.flatMap Section.trials = trials
  obtain ⟨failed, hfailed⟩ : ∃ l, l = trials.filter fun t => !t.verdict.passed := ⟨_, rfl⟩
  have htotal : (trials.countP fun t => t.verdict.passed) + failed.length = trials.length := by
    rw [List.countP_eq_length_filter, hfailed]
    exact (List.length_eq_length_filter_add fun t : Trial => t.verdict.passed).symm
  have hstderr : (report colour filter sections).stderr =
      (concat (sections.map (Section.report colour filter))).stderr ++
        (Output.complainLines (reasons failed ++
          summary colour (trials.length - failed.length) failed.length)).stderr := by
    rw [hfailed, ← htrials]
    rfl
  refine ⟨(concat (sections.map (Section.report colour filter))).stderr ++
    (Output.complainLines (reasons failed)).stderr ++ "\n", failed.length, ?_, htotal⟩
  rw [hstderr, Output.complainLines_append, stderr_summary, ← htotal, Nat.add_sub_cancel]
  simp only [String.append_assoc]

end Report

theorem Tested.told {colour : Bool} {filter : Log.Filter} {files : List (String × ByteArray)}
    {out : Output} (h : Tested colour filter files out) : Told colour files out := by
  obtain ⟨lines⟩ | @⟨warnings, sections, _, htrials, hsome⟩ := h
  · refine ⟨?_, ?_, fun hsome => absurd rfl hsome⟩
    · simp [refuse]
    · simp [refuse]
  · have hexit : (Output.complainLines warnings ++ report colour filter sections).exit = _ :=
      exit_report colour filter sections
    have hall := forall_passed_iff htrials
    refine ⟨?_, ?_, fun _ => ?_⟩
    · rw [hexit, and_iff_right hsome, ← hall]
      simp
    · rw [hexit, and_iff_right hsome, ← hall]
      simp
    · obtain ⟨before, failed, hstderr, htotal⟩ := stderr_report colour filter sections
      rw [countP_passed htrials] at hstderr htotal
      refine ⟨(Output.complainLines warnings).stderr ++ before, _, failed, ?_, rfl, ?_⟩
      · rw [String.append_assoc, ← hstderr]
        rfl
      · rw [htotal, htrials.length_eq]

theorem Chosen.unique {path : String} {requests : List String}
    {found : Except FileFault FileTree} {files files' : List (String × ByteArray)}
    (h : Chosen path requests found files) (h' : Chosen path requests found files') :
    files = files' := by
  rcases h with _ | _ | hfiles
  · obtain ⟨⟩ := h'
    rfl
  · obtain ⟨⟩ := h'
    rfl
  · rcases h' with _ | _ | hfiles'
    rw [hfiles.unique hfiles']

/-! ## Runs -/

section Runs
variable (colour : Bool) (filter : Log.Filter) (path : String) (requests : List String)

theorem tested_file (bytes : ByteArray) :
    Tested colour filter [(path, bytes)]
      (runScenarios colour filter path (.ok (.file bytes)) requests) := by
  have hnothing (out : Output) : Output.complainLines [] ++ out = out := by
    change Output.append (Output.complainLines []) out = out
    simp [Output.append, Output.complainLines, Output.complain]
  rw [runScenarios, ← hnothing (report colour filter _)]
  exact .reported [] (.cons (tries_ofFile _ _ _) .nil) (List.cons_ne_nil _ _)

/-- The categories that are selected are run, if there are any. -/
theorem tested_folder (entries : List (String × FileTree)) :
    Tested colour filter
      (((select (Category.discover (.folder entries)) (requests.map Category.request)).flatMap
        Category.files).map fun f => (f.path path, f.bytes))
      (runScenarios colour filter path (.ok (.folder entries)) requests) := by
  obtain ⟨all, hall⟩ : ∃ all, all = Category.discover (.folder entries) := ⟨_, rfl⟩
  obtain ⟨cs, hcs⟩ : ∃ cs, cs = select all (requests.map Category.request) := ⟨_, rfl⟩
  rw [runScenarios, ← hall, ← hcs]
  · by_cases hnone : cs = []
    · rw [hnone]
      split
      · exact .refused _
      · exact .refused _
    · have hsublist : cs.Sublist all := by
        rw [hcs]
        exact select_sublist _ _
      have hsome : all ≠ [] := by
        rintro rfl
        exact hnone (List.sublist_nil.mp hsublist)
      rw [if_neg (by simpa using hsome), if_neg (by simpa using hnone)]
      refine .reported _ ?_ ?_
      · have htrials : (cs.map (Section.ofCategory path)).flatMap Section.trials =
            (cs.flatMap Category.files).map fun f =>
              .ofFile (f.path path) f.name (FileTree.decode f.bytes) := by
          rw [List.flatMap_map, List.map_flatMap]
          rfl
        rw [htrials, List.forall₂_map_left_iff, List.forall₂_map_right_iff, List.forall₂_same]
        exact fun f _ => tries_ofFile _ _ _
      · rw [hall, Category.discover_folder] at hsublist
        rw [Ne, List.map_eq_nil_iff, Category.flatMap_files_eq_nil_iff hsublist]
        exact hnone
  · exact fun bytes h => nomatch h

end Runs

/-- **What is asked for is run, once and in order, and the exit code tells whether all
passed.**  At every path there is one list of files that are chosen; each is tried, and the
output tells how many of them are scenarios that are fulfilled. -/
theorem runs_what_is_asked_for (colour : Bool) (filter : Log.Filter) (path : String)
    (found : Except FileFault FileTree) (requests : List String)
    (hproper : ∀ tree, found = .ok tree → tree.Proper) :
    (∃ files, Chosen path requests found files) ∧
      ∀ files, Chosen path requests found files →
        Tested colour filter files (runScenarios colour filter path found requests) ∧
          Told colour files (runScenarios colour filter path found requests) := by
  suffices h : ∃ files, Chosen path requests found files ∧
      Tested colour filter files (runScenarios colour filter path found requests) by
    obtain ⟨files, hchosen, htested⟩ := h
    refine ⟨⟨files, hchosen⟩, fun files' hchosen' => ?_⟩
    rw [hchosen'.unique hchosen]
    exact ⟨htested, htested.told⟩
  rcases found with fault | ⟨bytes⟩ | ⟨entries⟩
  · exact ⟨[], .nothing fault, .refused _⟩
  · exact ⟨_, .file bytes, tested_file colour filter path requests bytes⟩
  · have hselected := selected_select requests (hproper _ rfl)
    exact ⟨_, .folder hselected, tested_folder colour filter path requests entries⟩

/-- One reporter makes four blocks. -/
def fulfilledFile : ByteArray := "---\nexpect_blocks = 4\n---\nf".toUTF8

/-- No reporter, which makes one. -/
def unfulfilledFile : ByteArray := "---\nexpect_blocks = 2\n---\n".toUTF8

/-- Two folders that begin alike, and one inside the first of them. -/
def neighbours : List (String × FileTree) :=
  [("a", .folder [("x.scenario", .file fulfilledFile), ("notes", .file .empty),
      ("c", .folder [("y.scenario", .file unfulfilledFile)])]),
    ("ab", .folder [("z.scenario", .file .empty)])]

theorem proper_neighbours : (FileTree.folder neighbours).Proper := by
  refine .folder (by decide) (by decide) (List.forall_mem_cons.mpr ⟨?_,
    List.forall_mem_singleton.mpr ?_⟩)
  · refine .folder (by decide) (by decide) (List.forall_mem_cons.mpr ⟨.file _,
      List.forall_mem_cons.mpr ⟨.file _, List.forall_mem_singleton.mpr ?_⟩⟩)
    exact .folder (by decide) (by decide) (List.forall_mem_singleton.mpr (.file _))
  · exact .folder (by decide) (by decide) (List.forall_mem_singleton.mpr (.file _))

/-- Two requests that overlap, neither of which means the neighbour. -/
theorem selected_neighbours : Selected neighbours ["/a/", "a/c"]
    [⟨["a"], "x.scenario", fulfilledFile⟩, ⟨["a", "c"], "y.scenario", unfulfilledFile⟩] := by
  have hall : FileTree.scenarioFiles neighbours =
      [⟨["a"], "x.scenario", fulfilledFile⟩, ⟨["a", "c"], "y.scenario", unfulfilledFile⟩,
        ⟨["ab"], "z.scenario", .empty⟩] := rfl
  have hordered : List.Pairwise ScenarioFile.Before
      [⟨["a"], "x.scenario", fulfilledFile⟩, ⟨["a", "c"], "y.scenario", unfulfilledFile⟩] :=
    List.pairwise_pair.mpr (.inl (by decide +kernel))
  refine ⟨fun f => ?_, hordered, hordered.imp ScenarioFile.Before.ne⟩
  have hname := isScenarioName_iff f.name
  rw [scenarioEnding] at hname
  rw [← hname, ← and_assoc, ← FileTree.mem_scenarioFiles, hall]
  constructor
  · intro hf
    rcases List.mem_pair.mp hf with rfl | rfl
    · exact ⟨.head _, by decide +kernel⟩
    · exact ⟨.tail _ (.head _), by decide +kernel⟩
  · rintro ⟨hf, hasked⟩
    rcases List.mem_cons.mp hf with rfl | hf
    · exact .head _
    rcases List.mem_cons.mp hf with rfl | hf
    · exact .tail _ (.head _)
    · cases List.mem_singleton.mp hf
      exact absurd hasked (by decide +kernel)

/-- Of the two files that are asked for one passes, and the output says so. -/
theorem runs_what_is_asked_for_neighbours :
    (∀ tree, .ok (.folder neighbours) = (.ok tree : Except FileFault FileTree) → tree.Proper) ∧
      Chosen "." ["/a/", "a/c"] (.ok (.folder neighbours))
        [("./a/x.scenario", fulfilledFile), ("./a/c/y.scenario", unfulfilledFile)] ∧
      Passes fulfilledFile ∧ ¬ Passes unfulfilledFile ∧
      (runScenarios false ⟨[], none⟩ "." (.ok (.folder neighbours)) ["/a/", "a/c"]).exit = 1 ∧
      ∃ before, (runScenarios false ⟨[], none⟩ "." (.ok (.folder neighbours))
        ["/a/", "a/c"]).stderr =
          before ++ "scenario result: FAILED. 1 passed, 1 failed (of 2)\n" := by
  have hproper : ∀ tree, .ok (.folder neighbours) = (.ok tree : Except FileFault FileTree) →
      tree.Proper := by
    rintro _ ⟨⟩
    exact proper_neighbours
  have hchosen : Chosen "." ["/a/", "a/c"] (.ok (.folder neighbours))
      [("./a/x.scenario", fulfilledFile), ("./a/c/y.scenario", unfulfilledFile)] :=
    .folder selected_neighbours
  have hpasses : Passes fulfilledFile ∧ ¬ Passes unfulfilledFile := by decide +kernel
  obtain ⟨-, htested⟩ :=
    runs_what_is_asked_for false ⟨[], none⟩ "." (.ok (.folder neighbours)) ["/a/", "a/c"] hproper
  obtain ⟨-, htold⟩ := htested _ hchosen
  refine ⟨hproper, hchosen, hpasses.1, hpasses.2, htold.exit_eq_one_iff.mpr ?_, ?_⟩
  · exact fun hall => hpasses.2 (hall.2 _ (.tail _ (.head _)))
  · obtain ⟨before, passed, failed, hstderr, hpassed, htotal⟩ :=
      htold.counted (List.cons_ne_nil _ _)
    have hone : passed = 1 := hpassed.trans (by simp [hpasses])
    rw [hone] at hstderr htotal
    have hother : failed = 1 := Nat.add_left_cancel htotal
    rw [hother] at hstderr
    exact ⟨before, hstderr.trans (congrArg (before ++ ·) (by decide +kernel))⟩

end ReporterBlocks.Command
