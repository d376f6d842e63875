import ReporterBlocks.Proofs.Session.History

/-! # What a sequence of registrations binds

`registrations_bind` says what a roster is after any sequence of registrations: which
definitions it took, where each is found, which rows it shows and what every handler
name stands for, a name that no block has included.  The rows have the names of the
handlers, in their order, and each stands for what its block does to its reporter.  No
two rows have one handler name, so a binding never meets an older one, and every number
that a handler stands for is that of a reporter.

Running a block therefore finds the reporter and the parameter that its handler names;
no session ever refuses a read as out of bounds.
-/

namespace ReporterBlocks.Roster
variable {κ : Type}

/-- **The table of blocks and the handlers agree** after every sequence of
registrations. -/
theorem registrations_bind (overlap : Overlap) (limit : Nat) (ds : List Definition) :
    let start : Roster κ := empty overlap limit
    let s := start.registerAll ds
    let known := firstOfName [] ds
    (∀ k, (start.answers ds)[k]? =
      ds[k]?.map fun d => decide (d.name ∉ (ds.take k).map Definition.name)) ∧
    known = ((ds.zip (start.answers ds)).filter Prod.snd).map Prod.fst ∧
    s.size = known.length ∧ s.reporters = known.map (.fresh · overlap limit) ∧
    (∀ name i, s.lookup name = some i ↔ ∃ d, known[i]? = some d ∧ d.name = name) ∧
    (∀ name i more, s.lookup name = some i → (s.registerAll more).lookup name = some i) ∧
    s.rows = Row.entry :: known.flatMap Definition.rows ∧
    s.rows.map Row.handler = s.handlers.map Prod.fst ∧ (s.rows.map Row.handler).Nodup ∧
    s.handler? Row.entry.handler = some .reload ∧
    (∀ (i : Nat) (d : Definition), known[i]? = some d →
      d.rows.map (fun row => s.handler? row.handler) =
        some (.poll i) :: some (.call i) :: some (.answer i) ::
          (List.range d.arity).map fun index => some (.read i index)) ∧
    (∀ name h, s.handler? name = some h ↔ Bound known name h) ∧
    (s.handlers.map Prod.fst).Nodup ∧
    (∀ name h id, (name, h) ∈ s.handlers → h.reporter? = some id → id < s.size) ∧
    ∀ settings palette os handler args caller reporter index,
      (((Session.start settings palette : Session κ).after os).invoke handler args caller).answer ≠
        .error (.parameterOutOfBounds reporter index) := by
  intro start s known
  have hs : s.Coherent := (empty_coherent overlap limit).registerAll ds
  have hreporters : s.reporters = known.map (.fresh · overlap limit) :=
    reporters_registerAll start ds
  have hdefinitions : s.definitions = known := definitions_registerAll start ds
  have hsize : s.size = known.length := by rw [← length_definitions, hdefinitions]
  have hhandler : ∀ name h, s.handler? name = some h ↔ Bound known name h := by
    intro name h
    rw [hs.handler?_eq_some_iff, hdefinitions]
  refine ⟨?_, firstOfName_eq_filter start ds, hsize, hreporters, ?_, ?_, ?_,
    hs.map_handler_rows, ?_, (hhandler _ _).mpr .reload, ?_, hhandler, hs.handlerNames_nodup,
    ?_, ?_⟩
  · intro k
    rw [getElem?_answers]
    simp [start, names, definitions, empty]
  · intro name i
    rw [hs.lookup_eq_some_iff, hdefinitions]
  · intro name i more h
    exact lookup_registerAll hs h more
  · rw [hs.rows, hdefinitions]
  · rw [hs.map_handler_rows]
    exact hs.handlerNames_nodup
  · intro i d hd
    rw [← hdefinitions] at hd
    exact hs.map_handler?_rows hd
  · intro name h id hmem hid
    have hlook : s.handler? name = some h :=
      (lookup_eq_some_iff_mem hs.handlerNames_nodup name h).mpr hmem
    obtain ⟨d, hd⟩ := ((hhandler name h).mp hlook).exists_definition hid
    rw [hsize]
    exact (List.getElem?_eq_some_iff.mp hd).1
  · intro settings palette os handler args caller reporter index hfault
    have hsound := (Session.start_sound settings palette).after os
    rcases hsound.invoke_fault hfault with h | h | ⟨_, _, _, h⟩ | ⟨_, _, h⟩ <;> cases h

/-- A name that comes twice is registered once, and the next one is found behind it,
then and later; every row of the table names a handler that does what the row is for. -/
theorem registrations_bind_repeated :
    let ds : List Definition := [.predicate "f", .reporter "f", .reporter "g<b>"]
    let start : Roster Nat := empty .queue 1
    let s := start.registerAll ds
    let g := "funcg_60b_62_32"
    start.answers ds = [true, false, true] ∧
      s.lookup g = some 1 ∧ (s.registerAll [.reporter "h"]).lookup g = some 1 ∧
      s.rows = [⟨.command, "reload reporter %s", "parseReporter"⟩,
        ⟨.hat, "define f", "defr_funcf"⟩, ⟨.waitingPredicate, "f", "callr_funcf"⟩,
        ⟨.command, "return %b for f", "retr_funcf"⟩,
        ⟨.hat, "define g<b> ", "defr_" ++ g⟩, ⟨.waitingReporter, "g%b", "callr_" ++ g⟩,
        ⟨.command, "return %s for g<b> ", "retr_" ++ g⟩,
        ⟨.predicate, "b of g<b> ", "argr_" ++ g ++ "_0"⟩] ∧
      s.rows.map (fun row => s.handler? row.handler) =
        [some .reload, some (.poll 0), some (.call 0), some (.answer 0), some (.poll 1),
          some (.call 1), some (.answer 1), some (.read 1 0)] ∧
      s.handler? ("argr_" ++ g ++ "_1") = none := by
  intro ds start s g
  have hlook : s.lookup g = some 1 := by decide +kernel
  have hnew : firstOfName [] ds = [.predicate "f", .reporter "g<b>"] := by decide +kernel
  obtain ⟨-, -, -, -, -, hlater, hrows, -, -, hentry, hof, -⟩ :=
    @registrations_bind Nat .queue 1 ds
  have hfirst : s.handler? Row.entry.handler = some .reload := hentry
  have hf : (Definition.predicate "f").rows.map (fun row => s.handler? row.handler) = _ :=
    hof 0 (.predicate "f") (by rw [hnew]; rfl)
  have hg : (Definition.reporter "g<b>").rows.map (fun row => s.handler? row.handler) = _ :=
    hof 1 (.reporter "g<b>") (by rw [hnew]; rfl)
  refine ⟨by decide +kernel, hlook, hlater g 1 [.reporter "h"] hlook, ?_, ?_, by decide +kernel⟩
  · rw [hrows, hnew]
    decide +kernel
  · rw [hrows, hnew]
    rw [List.map_cons, hfirst, List.flatMap_cons, List.flatMap_singleton, List.map_append, hf, hg]
    decide +kernel

end ReporterBlocks.Roster
