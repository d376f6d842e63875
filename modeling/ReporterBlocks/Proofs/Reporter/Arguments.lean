import ReporterBlocks.Proofs.Reporter.Trigger

/-! # What the script reads

The cells of a reporter hold the arguments of one call, and if anybody waits it is the
caller of that call (`Serves`).  A call that is taken up is the one from then on, and
nothing else touches the cells, so that it is always the one that was taken up last
(`serves_latestCall`).  This holds under both policies: a call that waits in the queue
keeps its arguments, and they fit the cells when its turn comes.

`script_reads_latest_call` says what this means for the script: for each parameter it
reads what the parameter admits of the argument of that call.
-/

namespace ReporterBlocks
variable {κ : Type}

/-- The cells of a reporter that holds these arguments. -/
def Definition.cellsFor (d : Definition) (args : List Value) : List Cell :=
  (d.parameters.zip args).map fun (p, v) => ⟨p, p.kind.admit v⟩

/-- Where every cell is written, nothing is left of what the cells held. -/
theorem Cell.writeAll_eq {cs : List Cell} {vs : List Value} (h : vs.length = cs.length) :
    writeAll cs vs = ((cs.map parameter).zip vs).map fun (p, v) => ⟨p, p.kind.admit v⟩ := by
  induction cs generalizing vs with
  | nil =>
    rw [List.length_eq_zero_iff.mp h]
    rfl
  | cons c cs ih =>
    cases vs with
    | nil => cases h
    | cons v vs => simpa [writeAll, write] using ih (Nat.succ.inj h)

namespace Definition
variable {d : Definition} {args : List Value}

theorem getElem?_cellsFor (hargs : args.length = d.arity) {k : Nat} {p : Parameter}
    (hp : d.parameters[k]? = some p) :
    ∃ v, args[k]? = some v ∧ (d.cellsFor args)[k]? = some ⟨p, p.kind.admit v⟩ := by
  have hk : k < args.length := by
    rw [hargs]
    exact (List.getElem?_eq_some_iff.mp hp).1
  refine ⟨args[k], List.getElem?_eq_getElem hk, ?_⟩
  have hzip : (d.parameters.zip args)[k]? = some (p, args[k]) :=
    List.getElem?_zip_eq_some.mpr ⟨hp, List.getElem?_eq_getElem hk⟩
  rw [cellsFor, List.getElem?_map, hzip]
  rfl

end Definition

namespace Reporter

/-- **The reporter serves a call**: the cells hold all its arguments, and if anybody
waits it is its caller. -/
structure Serves (r : Reporter κ) (c : Call κ) : Prop where
  fits : c.args.length = r.definition.arity
  cells_eq : r.cells = r.definition.cellsFor c.args
  waits : ∀ k, r.pending = some k → k = c.caller

/-- The script reads what the parameters admit of the arguments. -/
theorem Serves.exists_read {r : Reporter κ} {c : Call κ} (h : r.Serves c) {k : Nat}
    {p : Parameter} (hp : r.definition.parameters[k]? = some p) :
    ∃ v w, c.args[k]? = some v ∧ r.read k = some w ∧ w = p.kind.admit v := by
  obtain ⟨v, hv, hcell⟩ := Definition.getElem?_cellsFor h.fits hp
  refine ⟨v, _, hv, ?_, rfl⟩
  rw [read, h.cells_eq, hcell, Option.map_some]

theorem fresh_read (d : Definition) (o : Overlap) (limit : Nat) {k : Nat} (hk : k < d.arity) :
    (fresh d o limit : Reporter κ).read k = some .empty := by
  have hcell : d.parameters[k]? = some d.parameters[k] := List.getElem?_eq_getElem hk
  simp [read, fresh, hcell, Cell.ofParameter]

end Reporter

namespace Moment

section OneMoment
variable {m : Moment κ} (h : m.Legal) {c : Call κ}
include h

/-- The call that is taken up is written to the cells, and its caller waits. -/
theorem Legal.activates_takenUp (hc : m.takenUp? = some c) :
    m.after.cells = Cell.writeAll m.before.cells c.args ∧ m.after.pending = some c.caller := by
  obtain ⟨r, a, ⟨p, ds, ls⟩, r'⟩ := m
  change Reporter.Way r a p ds r' at h
  cases h <;>
    simp_all [takenUp?, Reply.isAccepted, Reporter.queued, Reporter.activate]

/-- It has an argument for each cell, whether it comes from its caller or from the
queue. -/
theorem Legal.fits_takenUp (hm : m.before.WellFormed) (hc : m.takenUp? = some c) :
    c.args.length = m.before.cells.length := by
  have hqueue := hm.fits
  obtain ⟨r, a, ⟨p, ds, ls⟩, r'⟩ := m
  change Reporter.Way r a p ds r' at h
  cases h <;>
    simp_all [takenUp?, Reply.isAccepted, Reporter.queued, Reporter.activate]

/-- Where no call is taken up the cells stay as they are, and nobody begins to wait. -/
theorem Legal.keeps_of_not_takenUp (hnone : m.takenUp? = none) :
    m.after.cells = m.before.cells ∧
      ∀ k, m.after.pending = some k → m.before.pending = some k := by
  obtain ⟨r, a, ⟨p, ds, ls⟩, r'⟩ := m
  change Reporter.Way r a p ds r' at h
  cases h <;>
    simp_all [takenUp?, Reply.isAccepted, Reporter.queued, Reporter.activate]

/-- What is taken up or waits now waited before, or has just been accepted. -/
theorem Legal.queued_or_accepted (hc : m.takenUp? = some c ∨ c ∈ m.after.queue) :
    c ∈ m.before.queue ∨ m.accepted? = some c := by
  obtain ⟨r, a, ⟨p, ds, ls⟩, r'⟩ := m
  change Reporter.Way r a p ds r' at h
  cases h <;>
    grind [takenUp?, accepted?, Action.call?, Reply.isAccepted, Reporter.queued,
      Reporter.activate]

theorem Legal.serves_takenUp (hm : m.before.WellFormed) (hc : m.takenUp? = some c) :
    m.after.Serves c := by
  have hfits := h.fits_takenUp hm hc
  obtain ⟨hcells, hpending⟩ := h.activates_takenUp hc
  have hdefinition : m.after.definition = m.before.definition := Reporter.Way.definition_eq h
  refine ⟨?_, ?_, ?_⟩
  · rw [hdefinition, hfits, hm.length_cells]
  · rw [hcells, Cell.writeAll_eq hfits, hm.parameters, hdefinition]
    rfl
  · intro k hk
    exact Option.some.inj (hk.symm.trans hpending)

theorem Legal.serves_of_not_takenUp (hserves : m.before.Serves c) (hnone : m.takenUp? = none) :
    m.after.Serves c := by
  obtain ⟨hcells, hpending⟩ := h.keeps_of_not_takenUp hnone
  have hdefinition : m.after.definition = m.before.definition := Reporter.Way.definition_eq h
  refine ⟨?_, ?_, ?_⟩
  · rw [hdefinition]
    exact hserves.fits
  · rw [hcells, hdefinition]
    exact hserves.cells_eq
  · intro k hk
    exact hserves.waits k (hpending k hk)

end OneMoment
end Moment

namespace Reporter

/-- The call that was taken up last. -/
def latestCall (r : Reporter κ) (as : List (Action κ)) : Option (Call κ) :=
  (r.takenUpCalls as).getLast?

theorem latestCall_concat (r : Reporter κ) (as : List (Action κ)) (a : Action κ) :
    r.latestCall (as ++ [a]) = ((r.after as).moment a).takenUp?.or (r.latestCall as) := by
  rw [latestCall, takenUpCalls, history_concat, List.filterMap_append, List.getLast?_append]
  cases h : ((r.after as).moment a).takenUp? with
  | none => rw [List.filterMap_cons_none h]; rfl
  | some c => rw [List.filterMap_cons_some h]; rfl

section Run
variable {r : Reporter κ} (as : List (Action κ))

/-- Until a call is taken up the cells are what they were, and nobody begins to wait. -/
theorem keeps_of_latestCall_eq_none (hnone : r.latestCall as = none) :
    (r.after as).cells = r.cells ∧
      ∀ k, (r.after as).pending = some k → r.pending = some k := by
  induction as using List.reverseRecOn with
  | nil => exact ⟨rfl, fun _ hk => hk⟩
  | append_singleton as a ih =>
    rw [latestCall_concat, Option.or_eq_none_iff] at hnone
    obtain ⟨hcells, hpending⟩ := ih hnone.2
    obtain ⟨hcells', hpending'⟩ := ((r.after as).moment_legal a).keeps_of_not_takenUp hnone.1
    rw [after_concat]
    exact ⟨hcells'.trans hcells, fun k hk => hpending k (hpending' k hk)⟩

/-- **A reporter serves the call that was taken up last.** -/
theorem serves_latestCall (hr : r.WellFormed) {c : Call κ} (hc : r.latestCall as = some c) :
    (r.after as).Serves c := by
  induction as using List.reverseRecOn with
  | nil => cases hc
  | append_singleton as a ih =>
    have hlegal := (r.after as).moment_legal a
    rw [latestCall_concat] at hc
    rw [after_concat]
    cases htaken : ((r.after as).moment a).takenUp? with
    | some c' =>
      -- a call that is taken up now is the latest
      obtain rfl : c' = c := by simpa [htaken] using hc
      exact hlegal.serves_takenUp (hr.after as) htaken
    | none =>
      have hlatest : r.latestCall as = some c := by simpa [htaken] using hc
      exact hlegal.serves_of_not_takenUp (ih hlatest) htaken

/-- Every call that is taken up or waits has been accepted, or waited at first. -/
theorem queued_or_accepted {c : Call κ}
    (hc : c ∈ r.takenUpCalls as ∨ c ∈ (r.after as).queue) :
    c ∈ r.queue ∨ c ∈ r.acceptedCalls as := by
  induction as generalizing r with
  | nil => exact hc.symm.imp id id
  | cons a as ih =>
    have hone := (r.moment_legal a).queued_or_accepted (c := c)
    rw [takenUpCalls_cons, List.mem_append, Option.mem_toList, or_assoc] at hc
    rw [acceptedCalls_cons, List.mem_append, Option.mem_toList]
    rcases hc with hc | hc
    · exact (hone (Or.inl hc)).imp id Or.inl
    · rcases ih hc with hc | hc
      · exact (hone (Or.inr hc)).imp id Or.inl
      · exact Or.inr (Or.inr hc)

end Run

/-- **The script reads the arguments of the call that it runs for.**  Whatever is done to
a fresh reporter, there is a cell for each parameter, and what is read for a parameter is
what it admits of the argument of the call that was taken up last, or the empty text
before there is one.  While a caller waits it is the caller of that call, to whom the
next answer goes.  Whenever a call is taken up all its arguments are kept, and what takes
no call up, a poll or anything inert among it, leaves the cells as they are. -/
theorem script_reads_latest_call (d : Definition) (o : Overlap) (limit : Nat)
    (as : List (Action κ)) :
    let r : Reporter κ := fresh d o limit
    let s := r.after as
    s.cells.length = d.arity ∧
    (∀ k, d.arity ≤ k → s.read k = none) ∧
    (r.latestCall as = none → ∀ k, k < d.arity → s.read k = some .empty) ∧
    (∀ c, r.latestCall as = some c → c.args.length = d.arity ∧
      ∀ k p, d.parameters[k]? = some p →
        ∃ v, c.args[k]? = some v ∧
          s.read k = some (if p.kind = .boolean then .boolean v.truthy else v)) ∧
    (s.isPending = true → ∃ c, r.latestCall as = some c ∧ s.pending = some c.caller ∧
      ∀ v, (s.step (.answer v)).1.deliveries =
        [(c.caller, if d.result = .boolean then .boolean v.truthy else v)]) ∧
    ∀ m ∈ r.history as,
      (m.action = .poll ∨ m.Inert → m.takenUp? = none) ∧
      (m.takenUp? = none → m.after.cells = m.before.cells) ∧
      ∀ c, m.takenUp? = some c → c.args.length = d.arity ∧ m.after.cells = d.cellsFor c.args := by
  intro r s
  have hr : r.WellFormed := fresh_wellFormed d o limit
  have hdefinition : s.definition = d := r.after_definition as
  have hcells : s.cells.length = d.arity := by rw [(hr.after as).length_cells, hdefinition]
  refine ⟨hcells, ?_, ?_, ?_, ?_, ?_⟩
  · intro k hk
    have hbeyond : s.cells[k]? = none := List.getElem?_eq_none (hcells ▸ hk)
    rw [read, hbeyond, Option.map_none]
  · intro hnone k hk
    rw [read, (keeps_of_latestCall_eq_none as hnone).1]
    exact fresh_read d o limit hk
  · intro c hc
    have hserves := serves_latestCall as hr hc
    refine ⟨hserves.fits.trans (congrArg _ hdefinition), ?_⟩
    intro k p hp
    rw [← hdefinition] at hp
    obtain ⟨v, w, hv, hread, rfl⟩ := hserves.exists_read hp
    exact ⟨v, hv, by rw [hread, ValueKind.admit_eq]⟩
  · intro hpending
    obtain ⟨k, hk⟩ := Option.isSome_iff_exists.mp hpending
    cases hlatest : r.latestCall as with
    | none =>
      -- nobody waits at a fresh reporter
      cases (keeps_of_latestCall_eq_none as hlatest).2 k hk
    | some c =>
      obtain rfl : k = c.caller := (serves_latestCall as hr hlatest).waits k hk
      refine ⟨c, rfl, hk, ?_⟩
      intro v
      rw [deliveries_answer, hk, Option.toList_some, List.map_singleton, resultOf, hdefinition,
        ValueKind.admit_eq]
  · intro m hm
    have hlegal : m.Legal := r.legal_of_mem_history as hm
    -- the moment begins where an earlier part of the run ends
    obtain ⟨bs, -, hbefore⟩ := r.exists_after_of_mem_history as hm
    have hwf : m.before.WellFormed := hbefore ▸ hr.after bs
    have hsame : m.after.definition = d := by
      rw [Way.definition_eq hlegal, hbefore]
      exact r.after_definition bs
    refine ⟨?_, fun hnone => (hlegal.keeps_of_not_takenUp hnone).1, ?_⟩
    · rintro (hpoll | hinert)
      · rw [Moment.takenUp?, hpoll]
      · exact (hlegal.inert hinert).1
    · intro c hc
      have hserves := hlegal.serves_takenUp hwf hc
      exact ⟨hserves.fits.trans (congrArg _ hsame), hserves.cells_eq.trans (by rw [hsame])⟩

/-- The second caller's arguments wait in the queue with it: a poll leaves the cells to
the first caller, and once that one is answered the script reads the second's, the truth
of the boolean one, for the second's answer. -/
theorem script_reads_latest_call_queued :
    let d : Definition := ⟨"f [x] <b> ", [.text "f ", .slot .string, .slot .boolean], "funcf",
      [⟨"x", .reporter, .string⟩, ⟨"b", .boolean, .boolean⟩], .boolean⟩
    let r : Reporter Nat := fresh d .queue 1
    let as : List (Action Nat) := [.call ⟨[.text "a", .text "yes"], 1⟩,
      .call ⟨[.text "b", .text "0"], 2⟩, .poll, .answer (.text "no"), .call ⟨[], 3⟩]
    let m := (r.after (as.take 2)).moment .poll
    r.latestCall as = some ⟨[.text "b", .text "0"], 2⟩ ∧
      (r.after as).read 1 = some (.boolean false) ∧ (r.after as).read 2 = none ∧
      ((r.after as).step (.answer (.text "yes"))).1.deliveries = [(2, .boolean true)] ∧
      r.read 0 = some .empty ∧ m ∈ r.history as ∧ m.after.cells = m.before.cells := by
  intro d r as m
  have hlatest : r.latestCall as = some ⟨[.text "b", .text "0"], 2⟩ := rfl
  have hm : m ∈ r.history as := .tail _ (.tail _ (.head _))
  obtain ⟨-, hbeyond, -, hread, hpending, hmoments⟩ := script_reads_latest_call d .queue 1 as
  obtain ⟨-, -, hempty, -⟩ := script_reads_latest_call d .queue 1 ([] : List (Action Nat))
  obtain ⟨v, hv, hvalue⟩ := (hread _ hlatest).2 1 _ rfl
  obtain ⟨c, hc, -, hanswer⟩ := hpending rfl
  obtain ⟨hpoll, hkeeps, -⟩ := hmoments m hm
  obtain rfl := Option.some.inj (hlatest.symm.trans hc)
  obtain rfl := Option.some.inj hv
  exact ⟨hlatest, hvalue, hbeyond 2 (by decide), hanswer _,
    hempty rfl 0 (by decide), hm, hkeeps (hpoll (Or.inl rfl))⟩

end Reporter
end ReporterBlocks
