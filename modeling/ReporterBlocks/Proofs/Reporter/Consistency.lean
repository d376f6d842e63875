import ReporterBlocks.Proofs.Reporter.Arguments

/-! # What holds of a reporter at all times

`WellFormed` says how the queue, the caller that is served and the cells of a reporter
go together, and every step keeps it.  `representation_invariant` puts this down for all
that can become of a fresh reporter, with what follows for its callers: as calls wait
only behind one that is served, none is left behind at an idle reporter, and a further
call finds its place behind them or none at all (`Way.call_of_queue`).

Boolean places are the other part.  They begin with the empty text, so that a place holds
a truth value from the time on when something is put into it: a cell when a call is taken
up (`Serves.isBoolean`), the result when an answer is given (`result_after`).
-/

namespace ReporterBlocks
variable {κ : Type}

def Value.IsBoolean (v : Value) : Prop := ∃ b, v = .boolean b

theorem ValueKind.isBoolean_admit {kind : ValueKind} (hkind : kind = .boolean) (v : Value) :
    Value.IsBoolean <| kind.admit v := by
  subst hkind
  exact ⟨v.truthy, rfl⟩

/-- The value that an operation answers with. -/
def Action.answer? : Action κ → Option Value
  | .answer v => some v
  | _ => none

/-- Only answers change the result. -/
theorem Moment.Legal.result_after {m : Moment κ} (h : m.Legal) :
    m.after.result = m.action.answer?.elim m.before.result m.before.resultOf := by
  obtain ⟨r, a, ⟨p, ds, ls⟩, r'⟩ := m
  change Reporter.Way r a p ds r' at h
  cases h <;> rfl

namespace Reporter

/-- What the cells keep of a call for a boolean parameter is a truth value. -/
theorem Serves.isBoolean {r : Reporter κ} {c : Call κ} (h : r.Serves c) {cell : Cell}
    (hcell : cell ∈ r.cells) (hkind : cell.parameter.kind = .boolean) :
    cell.value.IsBoolean := by
  rw [h.cells_eq] at hcell
  obtain ⟨⟨p, v⟩, -, rfl⟩ := List.mem_map.mp hcell
  exact ValueKind.isBoolean_admit hkind v

/-- The result is what the definition makes of the latest answer. -/
theorem result_after (r : Reporter κ) (as : List (Action κ)) :
    (r.after as).result =
      (as.filterMap Action.answer?).getLast?.elim r.result r.definition.result.admit := by
  induction as using List.reverseRecOn with
  | nil => rfl
  | append_singleton as a ih =>
    have hone : ((r.after as).step a).2.result =
        a.answer?.elim (r.after as).result (r.after as).resultOf :=
      ((r.after as).moment_legal a).result_after
    rw [after_concat, hone, List.filterMap_append, List.getLast?_append]
    cases ha : a.answer? with
    | none =>
      rw [List.filterMap_cons_none ha]
      exact ih
    | some v =>
      rw [List.filterMap_cons_some ha, Option.elim_some, resultOf, after_definition]
      rfl

/-- **While calls wait, a further one waits behind them** or is refused; all else stays as
it is. -/
theorem Way.call_of_queue {r r' : Reporter κ} {c : Call κ} {p : Reply} {ds : List (κ × Value)}
    (h : Way r (.call c) p ds r') (hr : r.WellFormed) (hq : r.queue ≠ []) :
    ∃ late, r' = { r with queue := r.queue ++ late } := by
  cases h with
  | misfit | full => exact ⟨[], by rw [List.append_nil]⟩
  | queued => exact ⟨[c], rfl⟩
  | superseding _ _ _ _ hp => exact absurd (hr.policy hp) hq
  | taken _ _ hk => exact absurd (hr.behind hk) hq

/-- **The invariant of a reporter.**  Whatever is done to a fresh one, no more calls wait
than the limit allows; they wait only under the `queue` policy and behind a caller that
is served, and a further call does not overtake them; each has an argument for every
cell, and the cells are those of the parameters.  From the first call that is taken up on
every cell of a boolean parameter holds a truth value, and so does the result of a
predicate from the first answer on. -/
theorem representation_invariant (d : Definition) (o : Overlap) (limit : Nat)
    (as : List (Action κ)) :
    let r : Reporter κ := fresh d o limit
    let s := r.after as
    s.queued ≤ limit ∧
    (s.queue ≠ [] → o = .queue ∧ s.isPending = true ∧
      ∀ c, ∃ late, (s.step (.call c)).2 = { s with queue := s.queue ++ late }) ∧
    (∀ c ∈ s.queue, c.args.length = s.cells.length) ∧
    s.cells.map Cell.parameter = d.parameters ∧ s.cells.length = d.arity ∧
    (r.takenUpCalls as ≠ [] → ∀ cell ∈ s.cells, cell.parameter.kind = .boolean →
      cell.value.IsBoolean) ∧
    (d.result = .boolean → ∀ v, .answer v ∈ as → s.result.IsBoolean) := by
  intro r s
  have hr : r.WellFormed := fresh_wellFormed d o limit
  have hs : s.WellFormed := hr.after as
  have hdefinition : s.definition = d := r.after_definition as
  have hlimit : s.queueLimit = limit := r.after_queueLimit as
  have hpolicy : s.overlap = o := r.after_overlap as
  refine ⟨hlimit ▸ hs.within, ?_, hs.fits, hdefinition ▸ hs.parameters,
    hdefinition ▸ hs.length_cells, ?_, ?_⟩
  · intro hq
    refine ⟨?_, ?_, fun c => (s.step_way (.call c)).call_of_queue hs hq⟩
    · cases o with
      | queue => rfl
      | supersede => exact absurd (hs.policy hpolicy) hq
    · -- a queue behind nobody would never be served
      by_contra hidle
      exact hq (hs.behind (by simpa [isPending] using hidle))
  · intro htaken cell hcell hkind
    obtain ⟨c, hc⟩ := Option.isSome_iff_exists.mp (List.getLast?_isSome.mpr htaken)
    exact (serves_latestCall as hr hc).isBoolean hcell hkind
  · intro hpredicate v hv
    have hanswers : as.filterMap Action.answer? ≠ [] :=
      List.ne_nil_of_mem (List.mem_filterMap.mpr ⟨_, hv, rfl⟩)
    obtain ⟨w, hw⟩ := Option.isSome_iff_exists.mp (List.getLast?_isSome.mpr hanswers)
    have hresult : s.result = d.result.admit w := by
      rw [r.result_after as, hw]
      rfl
    rw [hresult]
    exact ValueKind.isBoolean_admit hpredicate w

/-- A predicate that was answered before it was called, with one caller served and another
in the queue: the boolean cell and the result hold truth values, and a third call, which
finds the queue full, changes nothing. -/
theorem representation_invariant_queued :
    let d : Definition := ⟨"is <b> ", [.text "is ", .slot .boolean], "funcis",
      [⟨"b", .boolean, .boolean⟩], .boolean⟩
    let r : Reporter Nat := fresh d .queue 1
    let as : List (Action Nat) :=
      [.answer (.text "no"), .call ⟨[.text "yes"], 1⟩, .call ⟨[.number 0], 2⟩]
    let s := r.after as
    s.queue ≠ [] ∧ s.isPending = true ∧
      (∃ late, (s.step (.call ⟨[.text ""], 3⟩)).2 = { s with queue := s.queue ++ late }) ∧
      (∃ cell ∈ s.cells, cell.parameter.name = "b" ∧ cell.value.IsBoolean) ∧
      s.result.IsBoolean := by
  intro d r as s
  have hqueue : s.queue ≠ [] := List.cons_ne_nil _ _
  have htaken : r.takenUpCalls as ≠ [] := List.cons_ne_nil _ _
  obtain ⟨-, hbehind, -, -, -, hcells, hresult⟩ := representation_invariant d .queue 1 as
  obtain ⟨-, hpending, hlate⟩ := hbehind hqueue
  refine ⟨hqueue, hpending, hlate _, ?_, hresult rfl _ (List.mem_cons_self)⟩
  obtain ⟨cell, hcell⟩ : ∃ cell, s.cells = [cell] ∧ cell.parameter = ⟨"b", .boolean, .boolean⟩ :=
    ⟨_, rfl, rfl⟩
  have hmem : cell ∈ s.cells := hcell.1 ▸ List.mem_singleton_self cell
  exact ⟨cell, hmem, by rw [hcell.2], hcells htaken cell hmem (by rw [hcell.2])⟩

end Reporter
end ReporterBlocks
