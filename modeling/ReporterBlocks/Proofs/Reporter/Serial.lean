import ReporterBlocks.Proofs.Reporter.Queue

/-! # The queue is a serialisation

Queueing calls comes to the same as making them later.  The *serialised* run
(`serialised`) leaves out every call that is refused and puts every other one
where it is taken up: a call that the queue lets wait stands right behind the
answer that ends its wait, and is left out if nothing ends it.  All other
operations stay in their places.

`queue_is_serialisation` runs it on a fresh reporter that supersedes.  There no
call finds a caller waiting, so nothing is ever superseded, and still the run
delivers, shows and leaves the same.  The proof is a simulation.  Its relation is
the function `unqueued`, which forgets the queue and the policy, and one moment of
the first run is matched by at most two of the second (`replays_serial`).

Where no call finds a caller waiting, the policy and the limit have nothing to
decide in the first place (`Calm.run_withPolicy`).
-/

namespace ReporterBlocks
variable {κ : Type}

/-- The operations that a moment stands for when each call is made where it is
taken up. -/
def Moment.serial (m : Moment κ) : List (Action κ) :=
  match m.action with
  | .call _ => m.takenUp?.toList.map .call
  | a => a :: m.takenUp?.toList.map .call

namespace Reporter

/-- A run with every call in the place where it is taken up. -/
def serialised (r : Reporter κ) (as : List (Action κ)) : List (Action κ) :=
  (r.history as).flatMap Moment.serial

theorem serialised_cons (r : Reporter κ) (a : Action κ) (as : List (Action κ)) :
    r.serialised (a :: as) = (r.moment a).serial ++ (r.step a).2.serialised as := rfl

/-- In this run no call finds a caller waiting. -/
def Calm (r : Reporter κ) (as : List (Action κ)) : Prop :=
  ∀ m ∈ r.history as, m.action.call?.isSome → m.before.isPending = false

instance (r : Reporter κ) (as : List (Action κ)) : Decidable (r.Calm as) :=
  inferInstanceAs (Decidable (∀ m ∈ r.history as, _))

theorem calm_cons {r : Reporter κ} {a : Action κ} {as : List (Action κ)} :
    r.Calm (a :: as) ↔
      (a.call?.isSome → r.isPending = false) ∧ (r.step a).2.Calm as := by
  simp [Calm, moment]

theorem calm_append {r : Reporter κ} {as bs : List (Action κ)} :
    r.Calm (as ++ bs) ↔ r.Calm as ∧ (r.after as).Calm bs := by
  unfold Calm
  rw [history_append]
  exact List.forall_mem_append

/-! ## Policies that decide nothing -/

/-- The same reporter under another policy and limit. -/
def withPolicy (r : Reporter κ) (o : Overlap) (limit : Nat) : Reporter κ :=
  { r with overlap := o, queueLimit := limit }

@[simp] theorem withPolicy_definition (r : Reporter κ) (o : Overlap) (limit : Nat) :
    (r.withPolicy o limit).definition = r.definition := rfl

@[simp] theorem withPolicy_cells (r : Reporter κ) (o : Overlap) (limit : Nat) :
    (r.withPolicy o limit).cells = r.cells := rfl

@[simp] theorem withPolicy_isPending (r : Reporter κ) (o : Overlap) (limit : Nat) :
    (r.withPolicy o limit).isPending = r.isPending := rfl

@[simp] theorem activate_withPolicy (r : Reporter κ) (o : Overlap) (limit : Nat) (c : Call κ) :
    (r.withPolicy o limit).activate c = (r.activate c).withPolicy o limit := rfl

theorem answer_withPolicy (r : Reporter κ) (o : Overlap) (limit : Nat) (v : Value) :
    (r.withPolicy o limit).answer v = ((r.answer v).1, (r.answer v).2.withPolicy o limit) := by
  unfold answer withPolicy
  cases r.pending with
  | none => rfl
  | some k => cases r.queue <;> rfl

/-- Only a call that finds a caller waiting asks for the policy. -/
theorem step_withPolicy (r : Reporter κ) (o : Overlap) (limit : Nat) (a : Action κ)
    (ha : a.call?.isSome → r.isPending = false) :
    (r.withPolicy o limit).step a = ((r.step a).1, (r.step a).2.withPolicy o limit) := by
  cases a with
  | poll | read => rfl
  | answer v =>
    simp only [step, answer_withPolicy]
    rfl
  | call c =>
    have hidle : r.isPending = false := ha rfl
    by_cases hargs : c.args.length = r.cells.length <;>
      simp [step, call, callLines, hargs, hidle]

/-- **In a calm run the policy and the limit decide nothing.** -/
theorem Calm.run_withPolicy {r : Reporter κ} {as : List (Action κ)} (h : r.Calm as)
    (o : Overlap) (limit : Nat) :
    (r.withPolicy o limit).run as = ((r.run as).1, (r.run as).2.withPolicy o limit) := by
  induction as generalizing r with
  | nil => rfl
  | cons a as ih =>
    obtain ⟨ha, has⟩ := calm_cons.mp h
    have hone := r.step_withPolicy o limit a ha
    have hrest := ih has
    simp only [run, hone, hrest]

/-! ## The simulation -/

/-- The reporter as one that supersedes, without its queue. -/
def unqueued (r : Reporter κ) (limit : Nat) : Reporter κ :=
  { r with overlap := .supersede, queue := [], queueLimit := limit }

/-- **What the simulation says.**  On the reporter that supersedes, the operations
`bs` take what is left of `r` to what is left of `r'`.  They answer the callers
`ds`, the polls and reads among them are told `os`, and no call finds a caller
waiting. -/
structure Replays (limit : Nat) (r r' : Reporter κ) (ds : List (κ × Value))
    (os : List (Action κ × Reply)) (bs : List (Action κ)) : Prop where
  after : (r.unqueued limit).after bs = r'.unqueued limit
  deliveries : (r.unqueued limit).deliveries bs = ds
  observations : (r.unqueued limit).observations bs = os
  calm : (r.unqueued limit).Calm bs

section Simulation
variable {limit : Nat} {r r' r'' : Reporter κ} {ds ds' : List (κ × Value)}
  {os os' : List (Action κ × Reply)} {bs bs' : List (Action κ)}

theorem Replays.nil (h : r.unqueued limit = r'.unqueued limit) : Replays limit r r' [] [] [] :=
  ⟨h, rfl, rfl, fun _ hm => nomatch hm⟩

theorem Replays.append (h : Replays limit r r' ds os bs) (h' : Replays limit r' r'' ds' os' bs') :
    Replays limit r r'' (ds ++ ds') (os ++ os') (bs ++ bs') where
  after := by rw [after_append, h.after, h'.after]
  deliveries := by rw [deliveries_append, h.deliveries, h.after, h'.deliveries]
  observations := by rw [observations_append, h.observations, h.after, h'.observations]
  calm := calm_append.mpr ⟨h.calm, h.after ▸ h'.calm⟩

/-- One operation, a call only if nobody waits. -/
theorem Replays.single {a : Action κ} {t : Turn κ}
    (hstep : (r.unqueued limit).step a = (t, r'.unqueued limit))
    (hidle : a.call?.isSome → r.isPending = false) :
    Replays limit r r' t.deliveries (Moment.mk r a t r').observation?.toList [a] where
  after := by rw [after_cons, hstep, after_nil]
  deliveries := by rw [deliveries_cons, hstep, deliveries_nil, List.append_nil]
  observations := by
    rw [observations_cons, observations_nil, List.append_nil, moment, hstep]
    rfl
  calm := calm_cons.mpr ⟨hidle, fun _ hm => nomatch hm⟩

theorem Replays.poll :
    Replays limit r { r with armed := false } [] [(.poll, .polled r.armed)] [.poll] := by
  have hstep : (r.unqueued limit).step .poll =
      (⟨.polled r.armed, [], (r.unqueued limit).pollLines⟩,
        unqueued { r with armed := false } limit) := rfl
  exact .single hstep fun ha => absurd ha (by simp [Action.call?])

theorem Replays.read (index : Nat) :
    Replays limit r r [] [(.read index, .value (r.read index))] [.read index] := by
  have hstep : (r.unqueued limit).step (.read index) =
      (⟨.value (r.read index), [], []⟩, r.unqueued limit) := rfl
  exact .single hstep fun ha => absurd ha (by simp [Action.call?])

/-- A call to an idle reporter is taken up. -/
theorem Replays.call {c : Call κ} (hargs : c.args.length = r.cells.length)
    (hk : r.pending = none) : Replays limit r (r.activate c) [] [] [.call c] := by
  have hstep : (r.unqueued limit).step (.call c) =
      (⟨.accepted, [], Cell.writeLines r.cells c.args⟩, (r.activate c).unqueued limit) := by
    simp [step, Reporter.call, callLines, unqueued, activate, isPending, hargs, hk]
  exact .single hstep fun _ => by simp [isPending, hk]

/-- An answer for which nobody waits is kept as the result, whatever the queue. -/
theorem Replays.stray (v : Value) (hk : r.pending = none) :
    Replays limit r { r with result := r.resultOf v } [] [] [.answer v] := by
  have hstep : (r.unqueued limit).step (.answer v) =
      (⟨.answered, [], (r.unqueued limit).answerLines⟩,
        unqueued { r with result := r.resultOf v } limit) := by
    simp [step, Reporter.answer, unqueued, resultOf, hk]
  exact .single hstep fun ha => absurd ha (by simp [Action.call?])

/-- An answer to a caller leaves an idle reporter, whatever waited in the queue. -/
theorem Replays.answer (v : Value) {k : κ} (cs : List (Call κ)) (hk : r.pending = some k) :
    Replays limit r { r with result := r.resultOf v, pending := none, queue := cs }
      [(k, r.resultOf v)] [] [.answer v] := by
  have hstep : (r.unqueued limit).step (.answer v) =
      (⟨.answered, [(k, r.resultOf v)], (r.unqueued limit).answerLines⟩,
        unqueued { r with result := r.resultOf v, pending := none, queue := cs } limit) := by
    simp [step, Reporter.answer, unqueued, resultOf, hk]
  exact .single hstep fun ha => absurd ha (by simp [Action.call?])

/-- **One moment under the `queue` policy is replayed by its serial form.** -/
theorem replays_serial {m : Moment κ} (h : m.Legal) (hm : m.before.WellFormed)
    (hpolicy : m.before.overlap = .queue) (limit : Nat) :
    Replays limit m.before m.after m.turn.deliveries m.observation?.toList m.serial := by
  obtain ⟨r, a, ⟨p, ds, ls⟩, r'⟩ := m
  change Way r a p ds r' at h
  change r.overlap = .queue at hpolicy
  cases h with
  | misfit c | full c => exact .nil rfl
  | queued c k hargs hk _ hroom =>
    -- the queue grows, so this is not the place where the call is taken up
    have hserial : Moment.serial ⟨r, .call c, ⟨.accepted, [], ls⟩,
        { r with queue := r.queue ++ [c] }⟩ = [] := by
      simp [Moment.serial, Moment.takenUp?, Reporter.queued]
    rw [hserial]
    exact .nil rfl
  | superseding c k hargs hk hp => exact absurd (hpolicy.symm.trans hp) (by decide)
  | taken c hargs hk =>
    have hserial : Moment.serial ⟨r, .call c, ⟨.accepted, [], ls⟩, r.activate c⟩ =
        [.call c] := by
      simp [Moment.serial, Moment.takenUp?, Reporter.queued, Reply.isAccepted, activate]
    rw [hserial]
    exact .call hargs hk
  | poll => exact .poll
  | read index => exact .read index
  | stray v hk =>
    have hserial : Moment.serial ⟨r, .answer v, ⟨.answered, [], ls⟩,
        { r with result := r.resultOf v }⟩ = [.answer v] := by
      simp [Moment.serial, Moment.takenUp?, Reporter.queued]
    rw [hserial]
    exact .stray v hk
  | last v k hk hq =>
    have hserial : Moment.serial ⟨r, .answer v, ⟨.answered, [(k, r.resultOf v)], ls⟩,
        { r with result := r.resultOf v, pending := none }⟩ = [.answer v] := by
      simp [Moment.serial, Moment.takenUp?, Reporter.queued]
    rw [hserial]
    exact .answer v r.queue hk
  | next v k c cs hk hq =>
    have hserial : Moment.serial ⟨r, .answer v, ⟨.answered, [(k, r.resultOf v)], ls⟩,
        activate { r with result := r.resultOf v, pending := none, queue := cs } c⟩ =
        [.answer v] ++ [.call c] := by
      simp [Moment.serial, Moment.takenUp?, Reporter.queued, activate, hq]
    have hargs : c.args.length = r.cells.length := hm.fits c (by simp [hq])
    rw [hserial]
    exact (Replays.answer v cs hk).append (.call hargs rfl)

/-- **A run under the `queue` policy is replayed by its serialised form.** -/
theorem replays_serialised (hr : r.WellFormed) (hpolicy : r.overlap = .queue) (limit : Nat)
    (as : List (Action κ)) :
    Replays limit r (r.after as) (r.deliveries as) (r.observations as) (r.serialised as) := by
  induction as generalizing r with
  | nil => exact .nil rfl
  | cons a as ih =>
    have hrest := ih (hr.step a) ((r.step_way a).overlap_eq.trans hpolicy)
    rw [deliveries_cons, observations_cons, serialised_cons]
    exact (replays_serial (r.moment_legal a) hr hpolicy limit).append hrest

end Simulation

/-! ## What stands in a serialised run -/

theorem filterMap_call_serialised (r : Reporter κ) (as : List (Action κ)) :
    (r.serialised as).filterMap Action.call? = r.takenUpCalls as := by
  have hcalls (cs : List (Call κ)) : (cs.map Action.call).filterMap Action.call? = cs := by
    rw [List.filterMap_map]
    exact List.filterMap_some
  induction as generalizing r with
  | nil => rfl
  | cons a as ih =>
    rw [serialised_cons, takenUpCalls_cons, List.filterMap_append, ih]
    refine congrArg (· ++ _) ?_
    cases a with
    | call c => exact hcalls _
    | poll | read | answer => exact (List.filterMap_cons_none rfl).trans (hcalls _)

theorem filter_serialised (r : Reporter κ) (as : List (Action κ)) :
    (r.serialised as).filter (fun a => a.call?.isNone) =
      as.filter (fun a => a.call?.isNone) := by
  have hcalls (cs : List (Call κ)) :
      (cs.map Action.call).filter (fun a => a.call?.isNone) = [] := by
    simp [List.filter_eq_nil_iff, Action.call?]
  induction as generalizing r with
  | nil => rfl
  | cons a as ih =>
    rw [serialised_cons, List.filter_append, ih]
    cases a with
    | call c => exact congrArg (· ++ _) (hcalls _)
    | poll | read | answer =>
      exact congrArg (_ :: · ++ _) (hcalls _)

/-- **Queueing is serialisation.**  The serialised run of a fresh reporter that
queues makes its accepted calls in their order, less those that still wait at the
end, and does everything else in the order in which it was done.  On a fresh
reporter that supersedes, whatever the limit, it answers the same callers with the
same values, tells every poll and every read the same, and ends with the same
cells, the same trigger, the same result and the same caller waiting; and in it no
call finds a caller waiting.  Runs in which this is so anyway are the same under
both policies and all limits. -/
theorem queue_is_serialisation (d : Definition) (limit limit' : Nat) (as : List (Action κ)) :
    let q : Reporter κ := fresh d .queue limit
    let s : Reporter κ := fresh d .supersede limit'
    let bs := q.serialised as
    (bs.filterMap Action.call? ++ (q.after as).queue = q.acceptedCalls as ∧
      bs.filter (fun a => a.call?.isNone) = as.filter (fun a => a.call?.isNone)) ∧
    (s.deliveries bs = q.deliveries as ∧ s.observations bs = q.observations as ∧
      (s.after bs).cells = (q.after as).cells ∧ (s.after bs).armed = (q.after as).armed ∧
      (s.after bs).result = (q.after as).result ∧
      (s.after bs).pending = (q.after as).pending) ∧
    s.Calm bs ∧
    ∀ (o o' : Overlap) (n n' : Nat) (cs : List (Action κ)), (fresh d o n).Calm cs →
      (fresh d o' n').run cs =
        (((fresh d o n).run cs).1, ((fresh d o n).run cs).2.withPolicy o' n') := by
  intro q s bs
  have hq : q.WellFormed := fresh_wellFormed d .queue limit
  have hsim : Replays limit' q (q.after as) (q.deliveries as) (q.observations as) bs :=
    replays_serialised hq rfl limit' as
  have hs : q.unqueued limit' = s := rfl
  have hend : s.after bs = (q.after as).unqueued limit' := hs ▸ hsim.after
  refine ⟨⟨?_, filter_serialised q as⟩, ⟨hs ▸ hsim.deliveries, hs ▸ hsim.observations, ?_⟩,
    hs ▸ hsim.calm, fun o o' n n' cs hcalm => hcalm.run_withPolicy o' n'⟩
  · rw [filterMap_call_serialised]
    exact (queue_append_acceptedCalls hq rfl as).symm
  · rw [hend]
    exact ⟨rfl, rfl, rfl, rfl⟩

/-- Two calls that do not overlap: a reporter whose queue has no place does what one
does that supersedes. -/
theorem queue_is_serialisation_calm :
    let d : Definition := ⟨"f [x] ", [.text "f ", .slot .string], "funcf",
      [⟨"x", .reporter, .string⟩], .boolean⟩
    let cs : List (Action Nat) := [.answer (.text "early"), .call ⟨[.text "a"], 1⟩, .poll,
      .read 0, .answer (.text "yes"), .call ⟨[.text "b"], 2⟩, .answer (.text "")]
    (fresh d .queue 0).Calm cs ∧
      (fresh d .supersede 7).run cs =
        (((fresh d .queue 0).run cs).1, ((fresh d .queue 0).run cs).2.withPolicy .supersede 7) := by
  intro d cs
  have hcalm : (fresh d .queue 0).Calm cs := by decide
  exact ⟨hcalm, (queue_is_serialisation d 0 7 cs).2.2.2 .queue .supersede 0 7 cs hcalm⟩

end Reporter
end ReporterBlocks
