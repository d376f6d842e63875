import ReporterBlocks.Proofs.Reporter.Queue
import ReporterBlocks.Proofs.Session.History

/-! # Who is answered in a session

A caller is answered only if its call was accepted.  An operation can be handed a
caller (`Operation.caller?`), and the session admits it if the block answers that its
value comes later (`Moment.admitted?`).  Whoever an operation answers, and whoever
waits at a reporter after it, waited there before or is the caller that it admits
(`Sound.mem_waiting_step`); so a run from the start of a session answers nobody whom
it did not admit (`Sound.mem_deliveries_run`).
-/

namespace ReporterBlocks
variable {κ : Type}

/-- Whoever is answered or waits now waited before, or has just been accepted. -/
theorem Reporter.Way.mem_waiting {r r' : Reporter κ} {a : Action κ} {p : Reply}
    {ds : List (κ × Value)} (h : Way r a p ds r') {k : κ}
    (hk : k ∈ ds.map Prod.fst ∨ k ∈ r'.waiting) :
    k ∈ r.waiting ∨ (p = .accepted ∧ ∃ c, a = .call c ∧ c.caller = k) := by
  cases h with
  | misfit | full | poll | read | stray =>
    exact Or.inl (hk.resolve_left List.not_mem_nil)
  | queued c =>
    have hwaits := hk.resolve_left List.not_mem_nil
    rw [waiting, List.map_append, ← List.append_assoc, List.mem_append] at hwaits
    refine hwaits.imp id fun hc => ⟨rfl, c, rfl, ?_⟩
    exact (List.mem_singleton.mp hc).symm
  | superseding c | taken c =>
    have hwaits := hk.resolve_left List.not_mem_nil
    rcases List.mem_cons.mp hwaits with rfl | hqueue
    · exact Or.inr ⟨rfl, c, rfl, rfl⟩
    · exact Or.inl (List.mem_append_right _ hqueue)
  | last v k' hpending hq =>
    rw [waiting, hpending]
    refine Or.inl (hk.elim (fun hdelivered => ?_) fun hwaits => ?_)
    · exact List.mem_append_left _ hdelivered
    · exact List.mem_append_right _ hwaits
  | next v k' c cs hpending hq =>
    rw [waiting, hpending, hq]
    refine Or.inl (hk.elim (fun hdelivered => ?_) fun hwaits => ?_)
    · exact List.mem_append_left _ hdelivered
    · exact List.mem_append_right _ hwaits

/-- The caller that an operation is handed. -/
def Operation.caller? : Operation κ → Option κ
  | .invoke _ _ caller => caller
  | _ => none

namespace Session

/-- The caller that is admitted: the block answers that its value comes later. -/
def Moment.admitted? (m : Moment κ) : Option κ :=
  match m.effect.answer with
  | .ran (.ok .pending) => m.operation.caller?
  | _ => none

theorem Moment.admitted?_eq_some {m : Moment κ} {k : κ} (h : m.admitted? = some k) :
    m.effect.answer = .ran (.ok .pending) ∧ m.operation.caller? = some k := by
  unfold admitted? at h
  split at h
  · rename_i hpending
    exact ⟨hpending, h⟩
  · cases h

/-- The callers that wait at the reporters. -/
def waiting (s : Session κ) : List κ := s.roster.reporters.flatMap Reporter.waiting

theorem caller_of_actionOn_call {s : Session κ} {handler : String} {args : List Value}
    {caller : Option κ} {i : Nat} {c : Call κ}
    (h : s.actionOn i (.invoke handler args caller) = some (.call c)) :
    caller = some c.caller := by
  simp only [actionOn] at h
  split at h
  · rename_i id a hreq
    split at h
    · cases h
      obtain ⟨h, -, hcall⟩ := Option.bind_eq_some_iff.mp hreq
      exact (Handler.eq_call_of_request? hcall).2
    · cases h
  · cases h

section Sessions
variable {s : Session κ} (hs : s.Sound)
include hs

/-- **An operation answers callers that waited, or the one that it admits.** -/
theorem Sound.mem_waiting_step (o : Operation κ) {k : κ}
    (hk : k ∈ (s.step o).deliveries.map Prod.fst ∨ k ∈ (s.step o).session.waiting) :
    k ∈ s.waiting ∨ Moment.admitted? ⟨s, o, s.step o⟩ = some k := by
  have hway := hs.step_way o
  generalize s.step o = e at hway hk ⊢
  cases hway with
  | registers _ _ _ h =>
    rw [h.deliveries, waiting, h.roster, Roster.reporters_registerAll, List.flatMap_append,
      List.mem_append] at hk
    rcases hk with hk | hk | hk
    · cases hk
    · exact Or.inl hk
    · -- a reporter that has just been registered has no callers
      obtain ⟨r, hr, hk⟩ := List.mem_flatMap.mp hk
      obtain ⟨d, -, rfl⟩ := List.mem_map.mp hr
      cases hk
  | acts handler args caller id a r outcome haction hr houtcome =>
    have hactor : k ∈ (r.step a).1.deliveries.map Prod.fst ∨ k ∈ (r.step a).2.waiting →
        k ∈ s.waiting ∨ Moment.admitted? ⟨s, .invoke handler args caller,
          ⟨s.put id (r.step a).2, .ran outcome, (r.step a).1.deliveries, (r.step a).1.lines⟩⟩ =
            some k := by
      intro hk
      rcases (r.step_way a).mem_waiting hk with hk | ⟨hreply, c, rfl, rfl⟩
      · exact Or.inl (List.mem_flatMap.mpr ⟨r, List.mem_of_getElem? hr, hk⟩)
      · rw [hreply] at houtcome
        cases houtcome
        exact Or.inr (caller_of_actionOn_call ((haction id).trans (if_pos rfl)))
    rcases hk with hk | hk
    · exact hactor (Or.inl hk)
    · obtain ⟨r', hr', hk⟩ := List.mem_flatMap.mp hk
      rcases List.mem_or_eq_of_mem_set hr' with hr' | rfl
      · exact Or.inl (List.mem_flatMap.mpr ⟨r', hr', hk⟩)
      · exact hactor (Or.inr hk)
  | polls =>
    refine Or.inl ?_
    have hwaits := hk.resolve_left List.not_mem_nil
    obtain ⟨r', hr', hk⟩ := List.mem_flatMap.mp hwaits
    obtain ⟨r, hr, rfl⟩ := List.mem_map.mp hr'
    exact List.mem_flatMap.mpr ⟨r, hr, hk⟩

/-- **A run answers callers that waited when it began, or that it admitted.** -/
theorem Sound.mem_deliveries_run (os : List (Operation κ)) {k : κ}
    (hk : k ∈ (s.run os).deliveries.map Prod.fst) :
    k ∈ s.waiting ∨ ∃ m ∈ s.history os, m.admitted? = some k := by
  induction os generalizing s with
  | nil => cases hk
  | cons o os ih =>
    have hfirst {k : κ} := hs.mem_waiting_step o (k := k)
    have hsplit : (s.run (o :: os)).deliveries =
        (s.step o).deliveries ++ ((s.step o).session.run os).deliveries := rfl
    rw [hsplit, List.map_append, List.mem_append] at hk
    have hwaited : k ∈ s.waiting ∨ Moment.admitted? ⟨s, o, s.step o⟩ = some k ∨
        ∃ m ∈ (s.step o).session.history os, m.admitted? = some k := by
      rcases hk with hk | hk
      · exact (hfirst (Or.inl hk)).imp id Or.inl
      · rcases ih (hs.step o) hk with hk | hk
        · exact (hfirst (Or.inr hk)).imp id Or.inl
        · exact Or.inr (Or.inr hk)
    rw [history_cons, List.exists_mem_cons_iff]
    exact hwaited

end Sessions
end Session
end ReporterBlocks
