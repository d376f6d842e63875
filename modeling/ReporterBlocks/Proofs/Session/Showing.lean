import ReporterBlocks.Proofs.Session.History

/-! # What the host shows

The host shows a copy of the table of blocks.  The copy is taken when a session starts and
again whenever a reporter is registered (`Session.refresh`); everything else that is done
to a session leaves the palette alone.

`Refreshes` says of an activity that it takes one copy for each definition that is new,
with the rows that the table has by then.  Every operation does (`Sound.step_refreshes`):
those that register compose from single registrations, and those that act on reporters
register nothing.  A palette that showed the table therefore goes on to show it, and has
been registered once for each reporter and once at the start (`palette_shows_table`).
-/

namespace ReporterBlocks
variable {κ : Type}

namespace Palette

/-- The palette after one refresh for each of the definitions, whose rows are added to the
table in turn. -/
def refreshed (p : Palette) (extension : String) (rows : List Row) : List Definition → Palette
  | [] => p
  | d :: ds =>
    ((p.unregister extension).register extension (rows ++ d.rows)).refreshed extension
      (rows ++ d.rows) ds

theorem refreshed_append (p : Palette) (extension : String) (rows : List Row)
    (ds ds' : List Definition) :
    p.refreshed extension rows (ds ++ ds') =
      (p.refreshed extension rows ds).refreshed extension
        (rows ++ ds.flatMap Definition.rows) ds' := by
  induction ds generalizing p rows with
  | nil => simp [refreshed]
  | cons d ds ih => rw [List.cons_append, refreshed, ih, refreshed, List.flatMap_cons,
      List.append_assoc]

/-- Where the table is shown, it is shown after the refreshes, each of which counts. -/
theorem refreshed_of_shown (extension : String) (rows : List Row) (n : Nat)
    (ds : List Definition) :
    refreshed ⟨some extension, rows, n⟩ extension rows ds =
      ⟨some extension, rows ++ ds.flatMap Definition.rows, n + ds.length⟩ := by
  induction ds generalizing rows n with
  | nil => simp [refreshed]
  | cons d ds ih =>
    have hone : (unregister ⟨some extension, rows, n⟩ extension).register extension
        (rows ++ d.rows) = ⟨some extension, rows ++ d.rows, n + 1⟩ := by
      rw [unregister, if_pos rfl]
      rfl
    rw [refreshed, hone, ih, List.flatMap_cons, List.append_assoc, List.length_cons,
      Nat.add_assoc, Nat.add_comm 1]

end Palette

namespace Session

/-! ## Copies of the table -/

/-- The activity takes one copy of the table for each of the definitions that is new, and
no other. -/
def Refreshes {α : Type} (s : Session κ) (ds : List Definition) (e : Effect κ α) : Prop :=
  e.session.palette =
    s.palette.refreshed s.settings.name s.roster.rows (firstOfName s.roster.names ds)

section Activities
variable {α β : Type} {s : Session κ} {ds : List Definition}

theorem Refreshes.map {e : Effect κ α} (h : Refreshes s ds e) (f : α → β) :
    Refreshes s ds (e.map f) :=
  h

/-- The second activity starts from the table that the first one leaves. -/
theorem Refreshes.andThen {ds' : List Definition} {first : Effect κ α}
    {next : Session κ → Effect κ β} (h : Refreshes s ds first) (hregisters : Registers s ds first)
    (h' : ∀ s', Refreshes s' ds' (next s')) : Refreshes s (ds ++ ds') (first.andThen next) := by
  have hnext : (first.andThen next).session.palette = _ := h' first.session
  rw [Refreshes, hnext, hregisters.settings, hregisters.roster, h, Roster.firstOfName_append,
    Palette.refreshed_append, Roster.rows_registerAll]

theorem quiet_refreshes (s : Session κ) (answer : α) : Refreshes s [] (s.quiet answer) := rfl

theorem install_refreshes (s : Session κ) (d : Definition) : Refreshes s [d] (s.install d) := by
  by_cases hd : d.name ∈ s.roster.names
  · rw [Refreshes, install, Roster.register?_of_known hd, firstOfName, if_pos hd]
    rfl
  · rw [Refreshes, install, Roster.register?_of_new hd, firstOfName, if_neg hd]
    rfl

theorem reloadAll_refreshes (s : Session κ) (specs : List String) :
    Refreshes s (specs.map .reporter) (s.reloadAll specs) := by
  induction specs generalizing s with
  | nil => exact quiet_refreshes s 0
  | cons spec specs ih =>
    rw [reloadAll]
    exact (install_refreshes s (.reporter spec)).andThen (install_registers s _)
      fun s' => (ih s').map _

theorem load_refreshes (s : Session κ) (path : String) (contents : Except FileFault String) :
    Refreshes s (s.asked (.load path contents)) (s.load path contents) := by
  cases contents with
  | error f => exact quiet_refreshes s _
  | ok text => exact reloadAll_refreshes s (specifierLines text)

end Activities

/-- An operation that acts on a reporter registers nothing. -/
theorem asked_eq_nil_of_action {s : Session κ} {i : Nat} {o : Operation κ} {a : Action κ}
    (h : s.actionOn i o = some a) : s.asked o = [] := by
  cases o with
  | invoke handler args caller =>
    cases hh : s.roster.handler? handler with
    | none => simp only [asked, hh]
    | some b =>
      cases b with
      | reload => simp [actionOn, hh, Handler.request?] at h
      | _ => simp only [asked, hh]
  | pollAll => rfl
  | reload | definePredicate | load | find => cases h

section Operations
variable {s : Session κ} (hs : s.Sound)
include hs

theorem Sound.invoke_refreshes (handler : String) (args : List Value) (caller : Option κ) :
    Refreshes s (s.asked (.invoke handler args caller)) (s.invoke handler args caller) := by
  have hdispatch := hs.dispatch handler args caller
  generalize s.invoke handler args caller = e at hdispatch ⊢
  cases hdispatch with
  | unknown hh =>
    have hasked : s.asked (.invoke handler args caller) = [] := by simp only [asked, hh]
    rw [hasked]
    exact quiet_refreshes s _
  | reload spec hh hargs =>
    have hasked : s.asked (.invoke handler args caller) = [.reporter spec.display] := by
      simp only [asked, hh, hargs]
    rw [hasked]
    exact (install_refreshes s _).map _
  | refused _ _ _ _ hasked =>
    rw [hasked]
    exact quiet_refreshes s _
  | acts h id a r outcome hh hreq =>
    have haction : s.actionOn id (.invoke handler args caller) = some a := by
      simp [actionOn, hh, hreq]
    rw [asked_eq_nil_of_action haction]
    rfl

/-- **Every operation refreshes the palette once for each reporter that is new**, and at no
other time. -/
theorem Sound.step_refreshes (o : Operation κ) : Refreshes s (s.asked o) (s.step o) := by
  cases o with
  | reload spec => exact (install_refreshes s _).map _
  | definePredicate spec => exact (install_refreshes s _).map _
  | load path contents => exact (load_refreshes s path contents).map _
  | find spec => exact quiet_refreshes s _
  | invoke handler args caller => exact (hs.invoke_refreshes handler args caller).map _
  | pollAll => rfl

/-- What an operation adds to the reporters is what it asks for and is new. -/
theorem Sound.step_definitions (o : Operation κ) :
    (s.step o).session.roster.definitions =
      s.roster.definitions ++ firstOfName s.roster.names (s.asked o) := by
  have hway := hs.step_way o
  generalize s.step o = e at hway ⊢
  cases hway with
  | registers _ _ _ h => rw [h.roster, Roster.definitions_registerAll]
  | acts handler args caller id a r outcome haction hr =>
    have hasked : s.asked (.invoke handler args caller) = [] :=
      asked_eq_nil_of_action ((haction id).trans (if_pos rfl))
    rw [hasked, firstOfName, List.append_nil]
    exact Roster.definitions_put hr (r.step_way a).definition_eq
  | polls =>
    rw [Roster.definitions, Effect.map, Session.pollAll, List.map_map]
    exact (List.append_nil _).symm

/-! ## The palette of a run -/

/-- The palette shows the table, and a table was registered `n` times besides once for each
reporter. -/
def ShowsTable (s : Session κ) (n : Nat) : Prop :=
  s.palette = ⟨some s.settings.name, s.roster.rows, n + s.roster.size⟩

omit hs in
theorem start_showsTable (settings : Settings) (palette : Palette) :
    (start settings palette : Session κ).ShowsTable (palette.registrations + 1) := by
  rw [ShowsTable, start, refresh, Palette.unregister]
  split <;> rfl

theorem Sound.showsTable_step {n : Nat} (h : s.ShowsTable n) (o : Operation κ) :
    (s.step o).session.ShowsTable n := by
  have hrows : (s.step o).session.roster.rows =
      s.roster.rows ++ (firstOfName s.roster.names (s.asked o)).flatMap Definition.rows := by
    rw [(hs.step o).coherent.rows, hs.coherent.rows, hs.step_definitions, List.flatMap_append,
      List.cons_append]
  have hsize : (s.step o).session.roster.size =
      s.roster.size + (firstOfName s.roster.names (s.asked o)).length := by
    rw [← Roster.length_definitions, hs.step_definitions, List.length_append,
      Roster.length_definitions]
  have hpalette : (s.step o).session.palette = _ := hs.step_refreshes o
  rw [ShowsTable, hpalette, h, Palette.refreshed_of_shown, hs.step_settings, hrows, hsize,
    Nat.add_assoc]

theorem Sound.showsTable_after {n : Nat} (h : s.ShowsTable n) (os : List (Operation κ)) :
    (s.after os).ShowsTable n := by
  induction os generalizing s with
  | nil => exact h
  | cons o os ih => exact ih (hs.step o) (hs.showsTable_step h o)

/-- The table is shown at every moment of a run. -/
theorem Sound.showsTable_of_mem_history {n : Nat} (h : s.ShowsTable n) {os : List (Operation κ)}
    {m : Moment κ} (hm : m ∈ s.history os) :
    m.before.ShowsTable n ∧ m.before.settings = s.settings := by
  induction os generalizing s with
  | nil => cases hm
  | cons o os ih =>
    rcases List.mem_cons.mp hm with rfl | hm
    · exact ⟨h, rfl⟩
    · obtain ⟨hshows, hsettings⟩ := ih (hs.step o) (hs.showsTable_step h o) hm
      exact ⟨hshows, hsettings.trans (hs.step_settings o)⟩

end Operations

/-- **The host always shows the table of blocks.**  After every run of a session with a host
that has shown nothing before, and after every operation in it, the host shows the table
under the name in the settings, and a table has been registered once more often than there
are reporters.  Each reporter that an operation adds makes the host take one copy of the
table, with the rows up to its own, and nothing else makes it do so. -/
theorem palette_shows_table (settings : Settings) (os : List (Operation κ)) :
    let first : Session κ := start settings .empty
    let shown (s : Session κ) : Palette :=
      ⟨some settings.name, s.roster.rows, s.roster.size + 1⟩
    (first.after os).palette = shown (first.after os) ∧
    ∀ m ∈ first.history os,
      let new := firstOfName m.before.roster.names m.asked
      m.effect.session.palette = shown m.effect.session ∧
      m.effect.session.roster.definitions = m.before.roster.definitions ++ new ∧
      m.effect.session.palette =
        m.before.palette.refreshed settings.name m.before.roster.rows new ∧
      m.effect.session.palette.registrations = m.before.palette.registrations + new.length := by
  intro first shown
  have hs : first.Sound := start_sound settings .empty
  have hfirst : first.ShowsTable 1 := start_showsTable settings .empty
  refine ⟨?_, ?_⟩
  · have hafter : (first.after os).palette = _ := hs.showsTable_after hfirst os
    rw [hafter, hs.after_settings, Nat.add_comm 1]
    rfl
  · intro m hm new
    obtain ⟨hbefore, heffect⟩ := hs.of_mem_history hm
    obtain ⟨hshown, hsettings⟩ := hs.showsTable_of_mem_history hfirst hm
    obtain ⟨before, o, e⟩ := m
    obtain rfl : e = before.step o := heffect
    have hname : before.settings.name = settings.name := congrArg Settings.name hsettings
    have hnext : (before.step o).session.palette = shown (before.step o).session := by
      have hstep : (before.step o).session.palette = _ := hbefore.showsTable_step hshown o
      rw [hstep, hbefore.step_settings, hname, Nat.add_comm 1]
    have hrefreshed : (before.step o).session.palette =
        before.palette.refreshed settings.name before.roster.rows new :=
      hname ▸ hbefore.step_refreshes o
    refine ⟨hnext, hbefore.step_definitions o, hrefreshed, ?_⟩
    rw [hrefreshed, hshown, hname, Palette.refreshed_of_shown]

/-- A file that lists a known reporter and twice a new one makes the host take one copy. -/
theorem palette_shows_table_load :
    let first : Session Nat := start ⟨"blocks", .queue, 1⟩ .empty
    let os : List (Operation Nat) := [.reload "f", .load "gone" (.error .missing),
      .load "list" (.ok "f\n# none\ng [x]\ng [x"), .invoke "callr_none" [] (some 1)]
    let before := first.after (os.take 2)
    let loaded := before.step (.load "list" (.ok "f\n# none\ng [x]\ng [x"))
    before.roster.size = 1 ∧ loaded.session.roster.size = 2 ∧
      loaded.session.palette.registrations = before.palette.registrations + 1 ∧
      (first.after os).palette.registrations = 3 := by
  intro first os before loaded
  have hm : ⟨before, _, loaded⟩ ∈ first.history os := .tail _ (.tail _ (.head _))
  have hnew : (firstOfName before.roster.names
      (before.asked (.load "list" (.ok "f\n# none\ng [x]\ng [x")))).length = 1 := by
    decide +kernel
  have hsize : (first.after os).roster.size = 2 := by decide +kernel
  obtain ⟨hafter, hmoments⟩ := palette_shows_table (κ := Nat) ⟨"blocks", .queue, 1⟩ os
  obtain ⟨-, -, -, hcount⟩ := hmoments _ hm
  refine ⟨by decide +kernel, by decide +kernel, ?_, ?_⟩
  · rw [← hnew]
    exact hcount
  · exact (congrArg Palette.registrations hafter).trans (congrArg (· + 1) hsize)

end Session
end ReporterBlocks
