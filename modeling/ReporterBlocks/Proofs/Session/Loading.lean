import Mathlib.Data.Finset.Card
import ReporterBlocks.FileTree
import ReporterBlocks.Proofs.Session.Showing

/-! # Loading what a text lists

A file that is loaded registers a reporter for each specifier that its text lists, in order,
as if the host had defined them one by one (`session_reloadAll`).  What counts is the name
of a specifier and not its text: of the lines that have one name only the first can be new,
and it is new if the name was not known before.  So the count in the answer is the number of
new names (`answer_reloadAll`, `length_firstOfName`), and the table is shown once more for
each of them.

Afterwards all the names are known; so every line is found, and loading the text again
leaves the session as it is (`load_registers_new_names`).
-/

namespace ReporterBlocks
variable {κ : Type}

/-! ## New names -/

/-- **There are as many new definitions as new names.** -/
theorem length_firstOfName (known : List String) (ds : List Definition) :
    (firstOfName known ds).length =
      ((ds.map Definition.name).toFinset.filter (· ∉ known)).card := by
  rw [← List.length_map Definition.name,
    ← List.toFinset_card_of_nodup (nodup_names_firstOfName known ds)]
  congr 1
  ext name
  rw [List.mem_toFinset, mem_names_firstOfName, Finset.mem_filter, List.mem_toFinset]

theorem Palette.registrations_refreshed (p : Palette) (extension : String) (rows : List Row)
    (ds : List Definition) :
    (p.refreshed extension rows ds).registrations = p.registrations + ds.length := by
  induction ds generalizing p rows with
  | nil => rfl
  | cons d ds ih =>
    rw [refreshed, ih, register, unregister, List.length_cons]
    split <;> exact Nat.add_right_comm _ _ _

namespace Session

/-- The name that a specifier is registered under. -/
def nameOf (spec : String) : String := (Definition.reporter spec).name

/-- The names of the specifiers that the session does not know. -/
def newNames (s : Session κ) (specs : List String) : Finset String :=
  (specs.map nameOf).toFinset.filter (· ∉ s.roster.names)

/-! ## Line by line -/

section Lines
variable (s : Session κ) (specs : List String)

/-- **The lines are defined in turn**, as the host would define them. -/
theorem session_reloadAll : (s.reloadAll specs).session = s.after (specs.map .reload) := by
  induction specs generalizing s with
  | nil => rfl
  | cons spec specs ih => exact ih (s.reload spec).session

theorem answer_install (d : Definition) :
    (s.install d).answer = decide (d.name ∉ s.roster.names) := by
  by_cases hd : d.name ∈ s.roster.names
  · simp [install, Roster.register?_of_known hd, hd]
  · simp [install, Roster.register?_of_new hd, hd]

/-- **The answer counts the definitions that are new.** -/
theorem answer_reloadAll :
    (s.reloadAll specs).answer = (firstOfName s.roster.names (specs.map .reporter)).length := by
  induction specs generalizing s with
  | nil => rfl
  | cons spec specs ih =>
    have hsplit := Roster.firstOfName_append s.roster [.reporter spec] (specs.map .reporter)
    have hone : (if (s.reload spec).answer then 1 else 0) =
        (firstOfName s.roster.names [.reporter spec]).length := by
      rw [reload, answer_install, firstOfName]
      by_cases hspec : (Definition.reporter spec).name ∈ s.roster.names <;>
        simp [hspec, firstOfName]
    calc (s.reloadAll (spec :: specs)).answer
        = (if (s.reload spec).answer then 1 else 0) +
            ((s.reload spec).session.reloadAll specs).answer := rfl
      _ = (firstOfName s.roster.names [.reporter spec]).length +
            (firstOfName (s.roster.registerAll [.reporter spec]).names
              (specs.map .reporter)).length := by
          rw [hone, ih, ← (install_registers s (.reporter spec)).roster]
          rfl
      _ = (firstOfName s.roster.names ((spec :: specs).map .reporter)).length := by
          rw [← List.length_append, ← hsplit]
          rfl

theorem length_new :
    (firstOfName s.roster.names (specs.map .reporter)).length = (s.newNames specs).card := by
  rw [length_firstOfName, List.map_map]
  rfl

end Lines

theorem Refreshes.registrations {α : Type} {s : Session κ} {ds : List Definition}
    {e : Effect κ α} (h : Refreshes s ds e) :
    e.session.palette.registrations =
      s.palette.registrations + (firstOfName s.roster.names ds).length :=
  (congrArg Palette.registrations h).trans (Palette.registrations_refreshed _ _ _ _)

theorem Registers.size {α : Type} {s : Session κ} {ds : List Definition} {e : Effect κ α}
    (h : Registers s ds e) :
    e.session.roster.size = s.roster.size + (firstOfName s.roster.names ds).length := by
  rw [← Roster.length_definitions, h.roster, Roster.definitions_registerAll, List.length_append,
    Roster.length_definitions]

/-- What was asked for is known afterwards. -/
theorem Registers.known {α : Type} {s : Session κ} {ds : List Definition} {e : Effect κ α}
    (h : Registers s ds e) {d : Definition} (hd : d ∈ ds) : d.name ∈ e.session.roster.names := by
  rw [Roster.names, h.roster, Roster.definitions_registerAll, List.map_append, List.mem_append,
    mem_names_firstOfName]
  by_cases hknown : d.name ∈ s.roster.names
  · exact Or.inl hknown
  · exact Or.inr ⟨List.mem_map_of_mem hd, hknown⟩

/-! ## What loading comes to -/

section Found
variable {s : Session κ} (hs : s.Sound)
include hs

/-- A specifier whose name is known is found, as the reporter of that name. -/
theorem Sound.exists_find {spec : String} (hspec : nameOf spec ∈ s.roster.names) :
    ∃ id r, s.find spec = some id ∧ s.roster.reporters[id]? = some r ∧
      r.definition.name = nameOf spec := by
  obtain ⟨id, hid⟩ : ∃ id, s.find spec = some id := by
    refine Option.ne_none_iff_exists'.mp fun hnone => ?_
    exact (Roster.lookup_eq_none_iff s.roster (nameOf spec)).mp hnone hspec
  obtain ⟨d, hd, hname⟩ := (hs.coherent.lookup_eq_some_iff _ _).mp hid
  obtain ⟨r, hr, rfl⟩ := Roster.getElem?_definitions_eq_some.mp hd
  exact ⟨id, r, hid, hr, hname⟩

/-- Specifiers that are found are found in one place only if they have one name. -/
theorem Sound.find_eq_find_iff {spec spec' : String} (hspec : nameOf spec ∈ s.roster.names)
    (hspec' : nameOf spec' ∈ s.roster.names) :
    s.find spec = s.find spec' ↔ nameOf spec = nameOf spec' := by
  refine ⟨fun heq => ?_, fun hname => congrArg s.roster.lookup hname⟩
  obtain ⟨id, r, hid, hr, hname⟩ := hs.exists_find hspec
  obtain ⟨id', r', hid', hr', hname'⟩ := hs.exists_find hspec'
  obtain rfl : id = id' := Option.some.inj (hid.symm.trans (heq.trans hid'))
  obtain rfl : r = r' := Option.some.inj (hr.symm.trans hr')
  exact hname.symm.trans hname'

end Found

/-- **What loading a text comes to.** -/
structure LoadsNames (s : Session κ) (text : String) (loaded : Effect κ (Except Fault Nat)) :
    Prop where
  /-- The specifiers are defined one by one, in the order of the lines. -/
  inTurn : loaded.session = s.after ((specifierLines text).map .reload)
  /-- Nobody is answered. -/
  deliveries : loaded.deliveries = []
  counts : loaded.answer = .ok (s.newNames (specifierLines text)).card
  atMost : (s.newNames (specifierLines text)).card ≤ (specifierLines text).length
  size : loaded.session.roster.size = s.roster.size + (s.newNames (specifierLines text)).card
  /-- The host is handed one table for each new name. -/
  registrations : loaded.session.palette.registrations =
    s.palette.registrations + (s.newNames (specifierLines text)).card
  found : ∀ spec ∈ specifierLines text, ∃ id r, loaded.session.find spec = some id ∧
    loaded.session.roster.reporters[id]? = some r ∧ r.definition.name = nameOf spec
  /-- Lines are told apart by their names only. -/
  foundTogether : ∀ spec ∈ specifierLines text, ∀ spec' ∈ specifierLines text,
    (loaded.session.find spec = loaded.session.find spec' ↔ nameOf spec = nameOf spec')
  /-- Loading the text once more does nothing, wherever it is read. -/
  again : ∀ path', (loaded.session.load path' (.ok text)).session = loaded.session ∧
    (loaded.session.load path' (.ok text)).answer = .ok 0

theorem Sound.loadsNames {s : Session κ} (hs : s.Sound) (path text : String) :
    s.LoadsNames text (s.load path (.ok text)) := by
  have hregisters := load_registers s path (.ok text)
  have hsound := hs.registers hregisters
  have hcount := length_new s (specifierLines text)
  have hknown : ∀ spec ∈ specifierLines text,
      nameOf spec ∈ (s.load path (.ok text)).session.roster.names :=
    fun spec hspec => hregisters.known (List.mem_map_of_mem hspec)
  constructor
  case inTurn => exact session_reloadAll s _
  case deliveries => exact hregisters.deliveries
  case counts =>
    rw [← hcount, ← answer_reloadAll]
    rfl
  case atMost =>
    rw [← hcount]
    exact ((firstOfName_sublist _ _).length_le).trans_eq (List.length_map _)
  case size =>
    rw [← hcount]
    exact hregisters.size
  case registrations =>
    rw [← hcount]
    exact (load_refreshes s path (.ok text)).registrations
  case found => exact fun spec hspec => hsound.exists_find (hknown spec hspec)
  case foundTogether =>
    exact fun spec hspec spec' hspec' =>
      hsound.find_eq_find_iff (hknown spec hspec) (hknown spec' hspec')
  case again =>
    generalize (s.load path (.ok text)).session = t at hknown
    have hnames : ∀ d ∈ (specifierLines text).map Definition.reporter,
        d.name ∈ t.roster.names := by
      rintro d hd
      obtain ⟨spec, hspec, rfl⟩ := List.mem_map.mp hd
      exact hknown spec hspec
    intro path'
    refine ⟨(load_registers t path' (.ok text)).unchanged hnames, ?_⟩
    have hanswer := answer_reloadAll t (specifierLines text)
    rw [firstOfName_eq_nil hnames] at hanswer
    exact congrArg Except.ok hanswer

/-- **Loading a file registers its new names.**  In every session that has been run from its
start, loading a text does what defining its lines in turn does, and counts the names among
them that were not known; every line is found afterwards, lines of one name in one place,
and the same text again does nothing.  What cannot be read as text is refused and changes
nothing. -/
theorem load_registers_new_names (settings : Settings) (palette : Palette)
    (os : List (Operation κ)) (path : String) :
    let s : Session κ := (start settings palette).after os
    (∀ text, s.LoadsNames text (s.load path (.ok text))) ∧
    (∀ f, s.load path (.error f) =
        ⟨s, .error (.input ("cannot read '" ++ path ++ "': " ++ f.message)), [], []⟩ ∧
      (Fault.ofFile path f).kind = "IoError") ∧
    ∀ bytes : ByteArray, ¬ bytes.IsValidUTF8 →
      FileTree.textOf (.ok (.file bytes)) = .error .notText := by
  intro s
  have hs : s.Sound := (start_sound settings palette).after os
  refine ⟨hs.loadsNames path, fun f => ⟨rfl, rfl⟩, ?_⟩
  intro bytes hbytes
  have hnone : String.fromUTF8? bytes = none := dif_neg hbytes
  rw [FileTree.textOf, FileTree.decode, hnone]

/-- A known reporter and two lines for a new one: one name is new, and both lines find the
reporter of that name. -/
theorem load_registers_new_names_repeated :
    let text := "f\n# none\ng [x]\ng [x"
    let s : Session Nat := (start ⟨"blocks", .queue, 1⟩ .empty).after [.reload "f"]
    let loaded := s.load "list" (.ok text)
    loaded.answer = .ok 1 ∧ loaded.session.roster.size = 2 ∧
      loaded.session.find "g [x]" = loaded.session.find "g [x" ∧
      loaded.session.find "f" ≠ loaded.session.find "g [x" ∧
      (loaded.session.load "list" (.ok text)).answer = .ok 0 ∧
      FileTree.textOf (.ok (.file ⟨#[0x66, 0xff]⟩)) = .error .notText := by
  intro text s loaded
  obtain ⟨hloads, -, hbytes⟩ :=
    load_registers_new_names (κ := Nat) ⟨"blocks", .queue, 1⟩ .empty [.reload "f"] "list"
  have hloaded := hloads text
  have hnew : (s.newNames (specifierLines text)).card = 1 := by decide +kernel
  have hlines : specifierLines text = ["f", "g [x]", "g [x"] := by decide +kernel
  have hcounts := hloaded.counts
  have hsize := hloaded.size
  have htogether := hloaded.foundTogether
  rw [hnew] at hcounts hsize
  rw [hlines] at htogether
  refine ⟨hcounts, hsize, ?_, ?_, (hloaded.again "list").2, hbytes _ (by decide +kernel)⟩
  · exact (htogether _ (by decide) _ (by decide)).mpr (by decide +kernel)
  · exact (htogether _ (by decide) _ (by decide)).not.mpr (by decide +kernel)

end Session
end ReporterBlocks
