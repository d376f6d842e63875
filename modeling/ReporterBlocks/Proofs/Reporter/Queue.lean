import ReporterBlocks.Proofs.Reporter.History

/-! # Queued callers are answered in order

Under the `queue` policy a call passes two places: it waits in the queue, then it
is served, and at last its caller is answered.  Each place gives its calls back
in the order in which they came (`queue_append_acceptedCalls`,
`pending_append_takenUpCalls`): what was there, followed by what came in, is what
went out, followed by what is there now.  Put together, the accepted callers are
those that were answered followed by those that still wait
(`waiting_append_acceptedCalls`), in one order.

`queue_answers_in_order` says what this means for a fresh reporter: no accepted
caller is lost, answered twice, or overtaken.
-/

namespace ReporterBlocks
variable {κ : Type}

/-- Under the `queue` policy the calls taken up are those of the queue, oldest
first. -/
theorem Moment.Legal.queue_append_accepted {m : Moment κ} (h : m.Legal)
    (hm : m.before.WellFormed) (hpolicy : m.before.overlap = .queue) :
    m.before.queue ++ m.accepted?.toList = m.takenUp?.toList ++ m.after.queue := by
  obtain ⟨r, a, ⟨p, ds, ls⟩, r'⟩ := m
  change Reporter.Way r a p ds r' at h
  have hbehind := hm.behind
  cases h <;>
    simp_all [accepted?, takenUp?, Action.call?, Reply.isAccepted, Reporter.queued,
      Reporter.activate]

/-- Under the `queue` policy a caller is answered before the next one is served. -/
theorem Moment.Legal.pending_append_takenUp {m : Moment κ} (h : m.Legal)
    (hpolicy : m.before.overlap = .queue) :
    m.before.pending.toList ++ m.takenUp?.toList.map Call.caller =
      m.turn.deliveries.map Prod.fst ++ m.after.pending.toList := by
  obtain ⟨r, a, ⟨p, ds, ls⟩, r'⟩ := m
  change Reporter.Way r a p ds r' at h
  cases h <;>
    simp_all [takenUp?, Reply.isAccepted, Reporter.queued, Reporter.activate]

namespace Reporter

/-- The callers that are still to be answered: the one that is served and those
in the queue. -/
def waiting (r : Reporter κ) : List κ := r.pending.toList ++ r.queue.map Call.caller

theorem length_waiting (r : Reporter κ) :
    r.waiting.length = (if r.isPending then 1 else 0) + r.queued := by
  cases hk : r.pending <;> simp [waiting, isPending, queued, hk, Nat.add_comm]

/-- Nobody waits at an idle reporter. -/
theorem WellFormed.waiting_eq_nil_iff {r : Reporter κ} (hr : r.WellFormed) :
    r.waiting = [] ↔ r.isPending = false := by
  cases hk : r.pending with
  | none => simp [waiting, isPending, hk, hr.behind hk]
  | some k => simp [waiting, isPending, hk]

section Conservation
variable {r : Reporter κ} (hr : r.WellFormed) (hpolicy : r.overlap = .queue)
  (as : List (Action κ))
include hr hpolicy

/-- The queue gives its calls back in the order in which they joined it. -/
theorem queue_append_acceptedCalls :
    r.queue ++ r.acceptedCalls as = r.takenUpCalls as ++ (r.after as).queue := by
  induction as generalizing r with
  | nil => simp [acceptedCalls, takenUpCalls]
  | cons a as ih =>
    have hone : r.queue ++ (r.moment a).accepted?.toList =
        (r.moment a).takenUp?.toList ++ (r.step a).2.queue :=
      (r.moment_legal a).queue_append_accepted hr hpolicy
    have hrest := ih (hr.step a) ((r.step_way a).overlap_eq.trans hpolicy)
    rw [acceptedCalls_cons, takenUpCalls_cons, ← List.append_assoc, hone, List.append_assoc,
      hrest, List.append_assoc, after_cons]

omit hr in
/-- The reporter answers the callers that it serves in the order in which it took
them up. -/
theorem pending_append_takenUpCalls :
    r.pending.toList ++ (r.takenUpCalls as).map Call.caller =
      (r.deliveries as).map Prod.fst ++ (r.after as).pending.toList := by
  induction as generalizing r with
  | nil => simp [takenUpCalls]
  | cons a as ih =>
    have hone : r.pending.toList ++ (r.moment a).takenUp?.toList.map Call.caller =
        (r.step a).1.deliveries.map Prod.fst ++ (r.step a).2.pending.toList :=
      (r.moment_legal a).pending_append_takenUp hpolicy
    have hrest := ih ((r.step_way a).overlap_eq.trans hpolicy)
    rw [takenUpCalls_cons, deliveries_cons, List.map_append, List.map_append,
      ← List.append_assoc, hone, List.append_assoc, hrest, List.append_assoc, after_cons]

/-- **The conservation of callers.**  Those that waited and those that were
accepted are those that were answered and those that wait. -/
theorem waiting_append_acceptedCalls :
    r.waiting ++ (r.acceptedCalls as).map Call.caller =
      (r.deliveries as).map Prod.fst ++ (r.after as).waiting := by
  have hqueue := congrArg (List.map Call.caller) (queue_append_acceptedCalls hr hpolicy as)
  have hserved := pending_append_takenUpCalls hpolicy as
  simp only [List.map_append] at hqueue
  calc r.waiting ++ (r.acceptedCalls as).map Call.caller
      = r.pending.toList ++ (r.takenUpCalls as).map Call.caller ++
          (r.after as).queue.map Call.caller := by
        rw [waiting, List.append_assoc, hqueue, List.append_assoc]
    _ = (r.deliveries as).map Prod.fst ++ (r.after as).waiting := by
        rw [hserved, waiting, List.append_assoc]

end Conservation

/-- **Under the `queue` policy every accepted caller is answered exactly once and
in order.**  Whatever is done to a fresh reporter, the callers answered so far are
the first of those accepted, as many as there were effective answers, and the
`j`th of them was handed the value of the `j`th effective answer, or the truth of it
where the definition is that of a predicate.  An answer given
now is effective exactly if fewer callers were answered than accepted; those that
were not answered yet are the one that is served and those in the queue; and if no
two calls come from one caller, none that was refused is ever answered. -/
theorem queue_answers_in_order (d : Definition) (limit : Nat) (as : List (Action κ)) :
    let r : Reporter κ := fresh d .queue limit
    let callers := (r.acceptedCalls as).map Call.caller
    let answers := r.effectiveAnswers as
    r.deliveries as = (callers.take answers.length).zip
        (answers.map fun v => if d.result = .boolean then .boolean v.truthy else v) ∧
      answers.length ≤ callers.length ∧
      ((r.after as).isPending = true ↔ (r.deliveries as).length < callers.length) ∧
      (r.deliveries as).length + ((if (r.after as).isPending then 1 else 0) +
        (r.after as).queued) = callers.length ∧
      (((as.filterMap Action.call?).map Call.caller).Nodup →
        ∀ c ∈ r.refusedCalls as, c.caller ∉ (r.deliveries as).map Prod.fst) := by
  intro r callers answers
  have hr : r.WellFormed := fresh_wellFormed d .queue limit
  have hall : callers = (r.deliveries as).map Prod.fst ++ (r.after as).waiting :=
    waiting_append_acceptedCalls hr rfl as
  have hvalues : (r.deliveries as).map Prod.snd =
      answers.map fun v => if d.result = .boolean then .boolean v.truthy else v :=
    (r.map_snd_deliveries as).trans (List.map_congr_left fun v _ => d.result.admit_eq v)
  have hcount : (r.deliveries as).length = answers.length := by
    simpa using congrArg List.length hvalues
  have hlength : callers.length = (r.deliveries as).length + (r.after as).waiting.length := by
    simpa using congrArg List.length hall
  have hfirst : callers.take answers.length = (r.deliveries as).map Prod.fst := by
    rw [hall, List.take_left' (by simpa using hcount)]
  -- everything is now read off `hall`: the answered callers are a prefix of the accepted
  refine ⟨?_, by omega, ?_, by rw [hlength, length_waiting], ?_⟩
  · rw [hfirst, ← hvalues]
    exact List.zip_of_prod rfl rfl
  · rw [hlength]
    have hidle := (hr.after as).waiting_eq_nil_iff
    rw [← List.length_eq_zero_iff] at hidle
    cases hk : (r.after as).isPending with
    | true =>
      have hsome : (r.after as).waiting.length ≠ 0 := by simp [hidle, hk]
      exact ⟨fun _ => by omega, fun _ => rfl⟩
    | false => simp [hidle.mpr hk]
  · intro hnodup c hc hanswered
    have hsplit := ((r.calls_perm as).map Call.caller).nodup_iff.mpr hnodup
    rw [List.map_append] at hsplit
    have hmem : c.caller ∈ callers := by
      rw [hall]
      exact List.mem_append_left _ hanswered
    exact (List.nodup_append.mp hsplit).2.2 c.caller hmem c.caller (List.mem_map_of_mem hc) rfl

/-- Three callers of a predicate at a queue with one place: the third is refused, and the
other two are handed the truth of the first two answers. -/
theorem queue_answers_in_order_full :
    let d : Definition := ⟨"f", [.text "f"], "funcf", [], .boolean⟩
    let as : List (Action Nat) := [.call ⟨[], 1⟩, .call ⟨[], 2⟩, .call ⟨[], 3⟩,
      .answer (.text "yes"), .poll, .answer (.text ""), .answer (.text "0")]
    ((as.filterMap Action.call?).map Call.caller).Nodup ∧
      (fresh d .queue 1).deliveries as = [(1, .boolean true), (2, .boolean false)] ∧
      3 ∉ ((fresh d .queue 1).deliveries as).map Prod.fst := by
  intro d as
  have hnodup : ((as.filterMap Action.call?).map Call.caller).Nodup := by decide
  have hrefused : (⟨[], 3⟩ : Call Nat) ∈ (fresh d .queue 1).refusedCalls as :=
    List.mem_singleton_self _
  obtain ⟨hdeliveries, -, -, -, hnever⟩ := queue_answers_in_order d 1 as
  exact ⟨hnodup, hdeliveries, hnever hnodup _ hrefused⟩

end Reporter
end ReporterBlocks
