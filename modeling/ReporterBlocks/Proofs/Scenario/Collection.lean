import Mathlib.Data.List.Nodup
import ReporterBlocks.Proofs.Text.Cut
import ReporterBlocks.Scenario.Collection

/-! # Which scenario files are found, and in which order

A file stands in a tree at the end of a way through its folders (`FileTree.Holds`), and
`FileTree.files` finds each once (`mem_files`, `nodup_files`).  Those of a name that ends as
it must (`isScenarioName_iff`) are put into categories by their folders.  As long as names
do without separators, a folder can be told by its text (`intercalate_injective`), so the
order of categories and of the files in each is that of folders and of names
(`pairwise_flatMap_files`).
-/

namespace ReporterBlocks

/-! ## Files in a tree -/

namespace FileTree

/-- A name that says nothing of folders. -/
def ProperName (name : String) : Prop := name ≠ "" ∧ '/' ∉ name.toList ∧ '\\' ∉ name.toList

instance (name : String) : Decidable (ProperName name) := inferInstanceAs (Decidable (_ ∧ _))

/-- In every folder the names are proper and stand for one thing each. -/
inductive Proper : FileTree → Prop
  | file (bytes : ByteArray) : Proper (file bytes)
  | folder {entries : List (String × FileTree)} (hdistinct : (entries.map Prod.fst).Nodup)
      (hnames : ∀ e ∈ entries, ProperName e.1) (hinner : ∀ e ∈ entries, Proper e.2) :
      Proper (folder entries)

/-- **A file stands in a tree** at the end of a way, which holds the names from outside in. -/
inductive Holds : FileTree → List String → ByteArray → Prop
  | here (bytes : ByteArray) : Holds (file bytes) [] bytes
  | inside {entries : List (String × FileTree)} {name : String} {t : FileTree}
      {way : List String} {bytes : ByteArray} (hentry : (name, t) ∈ entries)
      (h : Holds t way bytes) : Holds (folder entries) (name :: way) bytes

theorem holds_file_iff {b bytes : ByteArray} {way : List String} :
    Holds (file b) way bytes ↔ way = [] ∧ bytes = b := by
  constructor
  · rintro ⟨⟩
    exact ⟨rfl, rfl⟩
  · rintro ⟨rfl, rfl⟩
    exact .here _

theorem holds_folder_iff {entries : List (String × FileTree)} {way : List String}
    {bytes : ByteArray} :
    Holds (folder entries) way bytes ↔
      ∃ e ∈ entries, ∃ rest, way = e.1 :: rest ∧ Holds e.2 rest bytes := by
  constructor
  · rintro (_ | ⟨hentry, h⟩)
    exact ⟨_, hentry, _, rfl, h⟩
  · rintro ⟨e, he, rest, rfl, h⟩
    exact .inside he h

mutual

/-- **All files are found**, and nothing else is. -/
theorem mem_files (t : FileTree) (way : List String) (bytes : ByteArray) :
    (way, bytes) ∈ t.files ↔ Holds t way bytes := by
  cases t with
  | file b => simp [files, holds_file_iff]
  | folder entries => rw [files, mem_entryFiles, holds_folder_iff]

theorem mem_entryFiles (entries : List (String × FileTree)) (way : List String)
    (bytes : ByteArray) :
    (way, bytes) ∈ entryFiles entries ↔
      ∃ e ∈ entries, ∃ rest, way = e.1 :: rest ∧ Holds e.2 rest bytes := by
  cases entries with
  | nil => simp [entryFiles]
  | cons e entries =>
    obtain ⟨name, t⟩ := e
    rw [entryFiles, List.mem_append, mem_entryFiles entries way bytes]
    have hhead : (way, bytes) ∈ t.files.map (fun (way, bytes) => (name :: way, bytes)) ↔
        ∃ rest, way = name :: rest ∧ Holds t rest bytes := by
      rw [List.mem_map]
      constructor
      · rintro ⟨⟨rest, b⟩, hmem, heq⟩
        cases heq
        exact ⟨rest, rfl, (mem_files t rest bytes).mp hmem⟩
      · rintro ⟨rest, rfl, h⟩
        exact ⟨(rest, bytes), (mem_files t rest bytes).mpr h, rfl⟩
    rw [hhead]
    simp

end

mutual

/-- Each file is found once. -/
theorem nodup_files (t : FileTree) (h : t.Proper) : (t.files.map Prod.fst).Nodup := by
  cases t with
  | file bytes => simp [files]
  | folder entries =>
    cases h with
    | folder hdistinct _ hinner =>
      rw [files]
      exact nodup_entryFiles entries hdistinct hinner

theorem nodup_entryFiles (entries : List (String × FileTree))
    (hdistinct : (entries.map Prod.fst).Nodup) (hinner : ∀ e ∈ entries, e.2.Proper) :
    ((entryFiles entries).map Prod.fst).Nodup := by
  cases entries with
  | nil => exact List.nodup_nil
  | cons e entries =>
    obtain ⟨name, t⟩ := e
    rw [List.map_cons, List.nodup_cons] at hdistinct
    obtain ⟨ht, hrest⟩ := List.forall_mem_cons.mp hinner
    have hhead : (t.files.map fun (way, bytes) => (name :: way, bytes)).map Prod.fst =
        (t.files.map Prod.fst).map (name :: ·) := by
      rw [List.map_map, List.map_map]
      rfl
    rw [entryFiles, List.map_append, hhead, List.nodup_append]
    refine ⟨?_, nodup_entryFiles entries hdistinct.2 hrest, ?_⟩
    · exact (nodup_files t ht).map fun _ _ => List.tail_eq_of_cons_eq
    · -- ways through two entries differ in the first name
      intro way hway way' hway' heq
      obtain ⟨rest, -, rfl⟩ := List.mem_map.mp hway
      obtain ⟨⟨_, bytes⟩, hmem, rfl⟩ := List.mem_map.mp hway'
      obtain ⟨e, he, rest', hway', -⟩ := (mem_entryFiles entries _ bytes).mp hmem
      have hname : name = e.1 := List.head_eq_of_cons_eq (heq.trans hway')
      have hfresh : name ∉ entries.map Prod.fst := hdistinct.1
      rw [hname] at hfresh
      exact hfresh (List.mem_map_of_mem he)

end

/-- The names on the way to a file are proper. -/
theorem Holds.properName {t : FileTree} {way : List String} {bytes : ByteArray}
    (h : Holds t way bytes) (ht : t.Proper) : ∀ name ∈ way, ProperName name := by
  induction h with
  | here => exact fun name hname => absurd hname List.not_mem_nil
  | inside hentry _ ih =>
    cases ht with
    | folder _ hnames hinner =>
      exact List.forall_mem_cons.mpr ⟨hnames _ hentry, ih (hinner _ hentry)⟩

end FileTree

/-! ## Names of scenario files -/

section Names
variable {name : String} {stem suffix : List Char}

/-- A name is split at its last point, which is the first one from behind. -/
theorem splitFileName_eq (h : name.toList.reverse = suffix ++ '.' :: stem)
    (hsuffix : '.' ∉ suffix) (hstem : stem ≠ []) :
    splitFileName name = (String.ofList stem.reverse, some (String.ofList suffix.reverse)) := by
  have hplain : ∀ c ∈ suffix, decide (c ≠ '.') = true := by
    intro c hc
    rw [decide_eq_true_eq]
    rintro rfl
    exact hsuffix hc
  have htake : name.toList.reverse.takeWhile (· ≠ '.') = suffix := by
    rw [h, List.takeWhile_append_of_pos hplain]
    simp
  have hdrop : (name.toList.reverse.dropWhile (· ≠ '.')).drop 1 = stem := by
    rw [h, List.dropWhile_append_of_pos hplain]
    simp
  rw [splitFileName, htake, hdrop]
  cases stem with
  | nil => exact absurd rfl hstem
  | cons => rfl

theorem exists_of_splitFileName {ending : String} (h : (splitFileName name).2 = some ending) :
    ∃ stem, stem ≠ [] ∧ name.toList.reverse = ending.toList.reverse ++ '.' :: stem := by
  have hsplit : name.toList.reverse.takeWhile (· ≠ '.') ++
      name.toList.reverse.dropWhile (· ≠ '.') = name.toList.reverse :=
    List.takeWhile_append_dropWhile
  have hpoint := List.head?_dropWhile_not (· ≠ '.') name.toList.reverse
  rw [splitFileName] at h
  cases hrest : name.toList.reverse.dropWhile (· ≠ '.') with
  | nil =>
    rw [hrest] at h
    cases h
  | cons c stem =>
    rw [hrest] at h hsplit hpoint
    obtain rfl : c = '.' := by simpa using hpoint
    cases stem with
    | nil => cases h
    | cons d stem =>
      obtain rfl := Option.some.inj h
      rw [String.toList_ofList, List.reverse_reverse]
      exact ⟨d :: stem, List.cons_ne_nil d stem, hsplit.symm⟩

end Names

/-- **The name of a scenario file** is some text with the ending behind a point. -/
theorem isScenarioName_iff (name : String) :
    isScenarioName name = true ↔ ∃ stem, stem ≠ "" ∧ name = stem ++ "." ++ scenarioEnding := by
  rw [isScenarioName, decide_eq_true_eq]
  constructor
  · intro h
    obtain ⟨stem, hstem, hname⟩ := exists_of_splitFileName h
    refine ⟨String.ofList stem.reverse, by simpa using hstem, String.toList_injective ?_⟩
    rw [← List.reverse_inj, hname]
    simp
  · rintro ⟨stem, hstem, rfl⟩
    have hreverse : (stem ++ "." ++ scenarioEnding).toList.reverse =
        scenarioEnding.toList.reverse ++ '.' :: stem.toList.reverse := by simp
    rw [splitFileName_eq hreverse (by decide) (by simpa using hstem)]
    simp

/-! ## Folders and their texts -/

namespace FileTree

/-- Names that are put together can be taken apart again. -/
theorem components_intercalate {names : List String} (hne : names ≠ [])
    (hnames : ∀ name ∈ names, '/' ∉ name.toList) :
    components ("/".intercalate names) = names := by
  induction names with
  | nil => exact absurd rfl hne
  | cons name names ih =>
    obtain ⟨hname, hrest⟩ := List.forall_mem_cons.mp hnames
    have hfirst := Text.piecesAt_of_not_mem hname
    cases names with
    | nil => simp [components, hfirst]
    | cons name' names =>
      have hlist : ("/".intercalate (name :: name' :: names)).toList =
          name.toList ++ '/' :: ("/".intercalate (name' :: names)).toList := by
        simp [String.intercalate_cons_cons]
      have hpieces := ih (List.cons_ne_nil _ _) hrest
      rw [components] at hpieces ⊢
      rw [hlist, Text.piecesAt_append, hfirst, List.map_append, hpieces]
      simp

theorem mem_intercalate {names : List String} {c : Char}
    (h : c ∈ ("/".intercalate names).toList) : c = '/' ∨ ∃ name ∈ names, c ∈ name.toList := by
  induction names with
  | nil => simp at h
  | cons name names ih =>
    cases names with
    | nil => exact .inr ⟨name, List.mem_cons_self, by simpa using h⟩
    | cons name' names =>
      rw [String.intercalate_cons_cons, String.toList_append, String.toList_append,
        List.mem_append, List.mem_append] at h
      rcases h with (h | h) | h
      · exact .inr ⟨name, List.mem_cons_self, h⟩
      · exact .inl (List.mem_singleton.mp h)
      · obtain hsep | ⟨inner, hinner, hc⟩ := ih h
        · exact .inl hsep
        · exact .inr ⟨inner, List.mem_cons_of_mem _ hinner, hc⟩

/-- **The text of a folder** tells the names on the way to it. -/
theorem intercalate_injective {names names' : List String}
    (hnames : ∀ name ∈ names, ProperName name) (hnames' : ∀ name ∈ names', ProperName name)
    (h : "/".intercalate names = "/".intercalate names') : names = names' := by
  -- only the folder that is searched has no text, since no name is empty
  have hempty {l : List String} (hl : ∀ name ∈ l, ProperName name)
      (htext : "/".intercalate l = "") : l = [] := by
    by_contra hne
    have hcomponents := components_intercalate hne fun name hname => (hl name hname).2.1
    rw [htext] at hcomponents
    exact (hl "" (hcomponents ▸ List.mem_cons_self)).1 rfl
  by_cases hnil : names = []
  · subst hnil
    exact (hempty hnames' h.symm).symm
  · by_cases hnil' : names' = []
    · subst hnil'
      exact hempty hnames h
    · rw [← components_intercalate hnil fun name hname => (hnames name hname).2.1, h,
        components_intercalate hnil' fun name hname => (hnames' name hname).2.1]

end FileTree

namespace ScenarioFile

/-- The text of the folder that a file stands in. -/
def folder (f : ScenarioFile) : String := "/".intercalate f.folders

/-- Without backslashes it is the name of the category. -/
theorem category_eq {f : ScenarioFile} (hf : ∀ name ∈ f.folders, FileTree.ProperName name) :
    f.category = f.folder := by
  have hplain : ∀ c ∈ f.folder.toList, (if c = '\\' then '/' else c) = c := by
    intro c hc
    rw [if_neg]
    rintro rfl
    obtain hsep | ⟨name, hname, hc⟩ := FileTree.mem_intercalate hc
    · exact absurd hsep (by decide)
    · exact (hf name hname).2.2 hc
  rw [category, ← folder, List.map_congr_left hplain, List.map_id', String.ofList_toList]

/-- A file of a tree is one of a scenario if its name is. -/
theorem of?_eq_some_iff {found : List String × ByteArray} {f : ScenarioFile} :
    of? found = some f ↔ found = (f.way, f.bytes) ∧ isScenarioName f.name = true := by
  obtain ⟨way, bytes⟩ := found
  obtain ⟨folders, name, contents⟩ := f
  rcases List.eq_nil_or_concat way with rfl | ⟨folders', name', rfl⟩
  · simp [of?, ScenarioFile.way]
  · have hlast : of? (folders'.concat name', bytes) =
        if isScenarioName name' then some ⟨folders', name', bytes⟩ else none := by
      simp [of?]
    rw [hlast, Option.ite_none_right_eq_some, ScenarioFile.way, List.concat_eq_append]
    constructor
    · rintro ⟨h, heq⟩
      cases heq
      exact ⟨rfl, h⟩
    · rintro ⟨heq, h⟩
      obtain ⟨hway, rfl⟩ := Prod.mk.inj heq
      obtain ⟨rfl, hname⟩ := List.append_inj' hway rfl
      cases hname
      exact ⟨h, rfl⟩

/-- **By folders**, and by names in each of them. -/
def Before (f g : ScenarioFile) : Prop :=
  f.folder < g.folder ∨ f.folder = g.folder ∧ f.name < g.name

theorem Before.asymm {f g : ScenarioFile} (h : f.Before g) : ¬ g.Before f := by
  rintro (hfolder | ⟨hfolder, hname⟩)
  · rcases h with h | ⟨h, -⟩
    · exact String.lt_irrefl _ (String.lt_trans h hfolder)
    · exact String.lt_irrefl _ (h ▸ hfolder)
  · rcases h with h | ⟨-, h⟩
    · exact String.lt_irrefl _ (hfolder ▸ h)
    · exact String.lt_irrefl _ (String.lt_trans h hname)

theorem Before.ne {f g : ScenarioFile} (h : f.Before g) : f ≠ g := by
  rintro rfl
  exact h.asymm h

end ScenarioFile

/-! ## The order of ways -/

section Ways
variable {names way way' way'' : List String} {name name' : String}

theorem wayLe_cons_iff :
    wayLe (name :: way) (name' :: way') = true ↔
      name < name' ∨ name = name' ∧ wayLe way way' = true := by
  rw [wayLe]
  by_cases h : name = name'
  · subst h
    simpa only [if_true, true_and] using
      (or_iff_right (String.lt_irrefl name)).symm
  · rw [if_neg h, decide_eq_true_eq]
    constructor
    · exact fun hle => .inl (Std.lt_of_le_of_ne hle h)
    · rintro (hlt | ⟨heq, -⟩)
      · exact Std.le_of_lt hlt
      · exact absurd heq h

theorem wayLe_total (way way' : List String) : (wayLe way way' || wayLe way' way) = true := by
  rw [Bool.or_eq_true]
  induction way generalizing way' with
  | nil => exact .inl rfl
  | cons a as ih =>
    rcases way' with _ | ⟨b, bs⟩
    · exact .inr rfl
    · rw [wayLe_cons_iff, wayLe_cons_iff]
      by_cases h : a = b
      · subst h
        exact (ih bs).imp (fun h => .inr ⟨rfl, h⟩) fun h => .inr ⟨rfl, h⟩
      · refine (String.le_total a b).imp (fun hle => .inl ?_) fun hle => .inl ?_
        · exact Std.lt_of_le_of_ne hle h
        · exact Std.lt_of_le_of_ne hle (Ne.symm h)

theorem wayLe_trans (h : wayLe way way' = true) (h' : wayLe way' way'' = true) :
    wayLe way way'' = true := by
  induction way generalizing way' way'' with
  | nil => rfl
  | cons a as ih =>
    rcases way' with _ | ⟨b, bs⟩
    · exact absurd h Bool.false_ne_true
    · rcases way'' with _ | ⟨c, cs⟩
      · exact absurd h' Bool.false_ne_true
      · rw [wayLe_cons_iff] at h h' ⊢
        rcases h with hab | ⟨rfl, h⟩
        · rcases h' with hbc | ⟨rfl, -⟩
          · exact .inl (String.lt_trans hab hbc)
          · exact .inl hab
        · rcases h' with hbc | ⟨rfl, h'⟩
          · exact .inl hbc
          · exact .inr ⟨rfl, ih h h'⟩

theorem wayLe_concat (h : wayLe (names ++ [name]) (names ++ [name']) = true) : name ≤ name' := by
  induction names with
  | nil =>
    rcases wayLe_cons_iff.mp h with hlt | ⟨heq, -⟩
    · exact Std.le_of_lt hlt
    · exact Std.le_of_eq heq
  | cons n names ih =>
    rcases wayLe_cons_iff.mp h with hlt | ⟨-, h⟩
    · exact absurd hlt (String.lt_irrefl n)
    · exact ih h

end Ways

/-! ## Categories -/

/-- The library tells the members of a list without repetitions, not that it has none. -/
theorem nodup_eraseDups {α : Type} [DecidableEq α] (l : List α) : l.eraseDups.Nodup := by
  cases l with
  | nil => exact List.nodup_nil
  | cons a l =>
    rw [List.eraseDups_cons, List.nodup_cons, List.mem_eraseDups]
    exact ⟨by simp, nodup_eraseDups (l.filter fun b => !b == a)⟩
termination_by l.length
decreasing_by exact Nat.lt_succ_of_le (List.length_filter_le _ l)

namespace Category
variable {fs : List ScenarioFile} {c : Category} {f : ScenarioFile}

/-- **Categories stand in order**, each once. -/
theorem pairwise_ofFiles (fs : List ScenarioFile) :
    (ofFiles fs).Pairwise fun c d => c.name < d.name := by
  have hnodup : ((fs.map ScenarioFile.category).eraseDups.mergeSort fun a b => a ≤ b).Nodup :=
    List.nodup_mergeSort.mpr (nodup_eraseDups _)
  rw [ofFiles, List.pairwise_map]
  refine ((List.pairwise_mergeSort ?_ ?_ _).and hnodup).imp fun ⟨hle, hne⟩ => ?_
  · intro a b c hab hbc
    exact decide_eq_true (String.le_trans (of_decide_eq_true hab) (of_decide_eq_true hbc))
  · intro a b
    simpa using String.le_total a b
  · exact Std.lt_of_le_of_ne (of_decide_eq_true hle) hne

/-- The category that files of one folder form. -/
def gather (fs : List ScenarioFile) (name : String) : Category :=
  ⟨name, (fs.filter fun f => f.category = name).mergeSort fun f g => wayLe f.way g.way⟩

theorem mem_ofFiles : c ∈ ofFiles fs ↔ ∃ f ∈ fs, gather fs f.category = c := by
  rw [ofFiles, List.mem_map]
  simp [List.mem_mergeSort, List.mem_eraseDups, gather]

/-- The files of a category are those in its folder. -/
theorem mem_files_iff (hc : c ∈ ofFiles fs) : f ∈ c.files ↔ f ∈ fs ∧ f.category = c.name := by
  obtain ⟨g, -, rfl⟩ := mem_ofFiles.mp hc
  simp [gather, List.mem_mergeSort]

theorem files_ne_nil (hc : c ∈ ofFiles fs) : c.files ≠ [] := by
  obtain ⟨f, hf, rfl⟩ := mem_ofFiles.mp hc
  exact List.ne_nil_of_mem ((mem_files_iff hc).mpr ⟨hf, rfl⟩)

/-- Every file stands in a category. -/
theorem exists_category (hf : f ∈ fs) : ∃ c ∈ ofFiles fs, f.category = c.name :=
  ⟨gather fs f.category, mem_ofFiles.mpr ⟨f, hf, rfl⟩, rfl⟩

/-- In a category, ways to files stand in order. -/
theorem pairwise_files (hways : (fs.map ScenarioFile.way).Nodup) (hc : c ∈ ofFiles fs) :
    c.files.Pairwise fun f g => wayLe f.way g.way = true ∧ f.way ≠ g.way := by
  obtain ⟨g, -, rfl⟩ := mem_ofFiles.mp hc
  refine List.Pairwise.and ?_ ?_
  · refine List.pairwise_mergeSort ?_ ?_ _
    · exact fun _ _ _ => wayLe_trans
    · exact fun _ _ => wayLe_total _ _
  · rw [← List.pairwise_map]
    refine ((List.mergeSort_perm _ _).map _).nodup_iff.mpr ?_
    exact hways.sublist (List.filter_sublist.map _)

section Chosen
variable {cs : List Category} (hcs : cs.Sublist (ofFiles fs))
include hcs

theorem mem_flatMap_files : f ∈ cs.flatMap files ↔ f ∈ fs ∧ ∃ c ∈ cs, f.category = c.name := by
  rw [List.mem_flatMap]
  constructor
  · rintro ⟨c, hc, hf⟩
    obtain ⟨hf, hname⟩ := (mem_files_iff (hcs.subset hc)).mp hf
    exact ⟨hf, c, hc, hname⟩
  · rintro ⟨hf, c, hc, hname⟩
    exact ⟨c, hc, (mem_files_iff (hcs.subset hc)).mpr ⟨hf, hname⟩⟩

/-- No category is without files. -/
theorem flatMap_files_eq_nil_iff : cs.flatMap files = [] ↔ cs = [] := by
  rw [List.flatMap_eq_nil_iff, List.eq_nil_iff_forall_not_mem]
  exact forall₂_congr fun c hc => iff_false_intro (files_ne_nil (hcs.subset hc))

/-- **Files stand in order**, each once, whatever categories are left out. -/
theorem pairwise_flatMap_files (hways : (fs.map ScenarioFile.way).Nodup)
    (hproper : ∀ f ∈ fs, ∀ name ∈ f.folders, FileTree.ProperName name) :
    (cs.flatMap files).Pairwise ScenarioFile.Before := by
  rw [List.pairwise_flatMap]
  refine ⟨fun c hc => ?_, ?_⟩
  · refine (pairwise_files hways (hcs.subset hc)).imp_of_mem fun {f g} hf hg ⟨hle, hne⟩ => ?_
    -- in one category, all files stand in one folder
    obtain ⟨hf, hfc⟩ := (mem_files_iff (hcs.subset hc)).mp hf
    obtain ⟨hg, hgc⟩ := (mem_files_iff (hcs.subset hc)).mp hg
    have hfolder : f.folder = g.folder := by
      rw [← ScenarioFile.category_eq (hproper f hf), ← ScenarioFile.category_eq (hproper g hg),
        hfc, hgc]
    have hfolders := FileTree.intercalate_injective (hproper f hf) (hproper g hg) hfolder
    rw [ScenarioFile.way, ScenarioFile.way, hfolders] at hle hne
    refine .inr ⟨hfolder, Std.lt_of_le_of_ne (wayLe_concat hle) fun hname => ?_⟩
    exact hne (by rw [hname])
  · refine (List.Pairwise.sublist hcs (pairwise_ofFiles fs)).imp_of_mem fun {c d} hc hd hlt => ?_
    intro f hf g hg
    obtain ⟨hf, hfc⟩ := (mem_files_iff (hcs.subset hc)).mp hf
    obtain ⟨hg, hgd⟩ := (mem_files_iff (hcs.subset hd)).mp hg
    rw [← hfc, ← hgd, ScenarioFile.category_eq (hproper f hf),
      ScenarioFile.category_eq (hproper g hg)] at hlt
    exact .inl hlt

end Chosen

end Category

/-! ## Scenario files of a tree -/

namespace FileTree
variable {entries : List (String × FileTree)} {f : ScenarioFile}

def scenarioFiles (entries : List (String × FileTree)) : List ScenarioFile :=
  (entryFiles entries).filterMap ScenarioFile.of?

theorem mem_scenarioFiles :
    f ∈ scenarioFiles entries ↔
      Holds (folder entries) f.way f.bytes ∧ isScenarioName f.name = true := by
  rw [← mem_files, files, scenarioFiles, List.mem_filterMap]
  constructor
  · rintro ⟨found, hmem, h⟩
    obtain ⟨rfl, hname⟩ := ScenarioFile.of?_eq_some_iff.mp h
    exact ⟨hmem, hname⟩
  · rintro ⟨hmem, hname⟩
    exact ⟨_, hmem, ScenarioFile.of?_eq_some_iff.mpr ⟨rfl, hname⟩⟩

theorem nodup_scenarioFiles (h : Proper (folder entries)) :
    ((scenarioFiles entries).map ScenarioFile.way).Nodup := by
  have hfiles : (entryFiles entries).Pairwise fun a b => a.1 ≠ b.1 := by
    have hnodup := nodup_files _ h
    rwa [files, List.Nodup, List.pairwise_map] at hnodup
  rw [List.Nodup, List.pairwise_map]
  refine hfiles.filterMap ScenarioFile.of? fun a b hne f hf g hg => ?_
  obtain ⟨rfl, -⟩ := ScenarioFile.of?_eq_some_iff.mp hf
  obtain ⟨rfl, -⟩ := ScenarioFile.of?_eq_some_iff.mp hg
  exact hne

theorem properName_of_mem_scenarioFiles (h : Proper (folder entries))
    (hf : f ∈ scenarioFiles entries) : ∀ name ∈ f.folders, ProperName name := by
  intro name hname
  refine (mem_scenarioFiles.mp hf).1.properName h name ?_
  exact List.mem_append_left _ hname

end FileTree

theorem Category.discover_folder (entries : List (String × FileTree)) :
    discover (.folder entries) = ofFiles (FileTree.scenarioFiles entries) := rfl

end ReporterBlocks
