import Mathlib.Data.List.DropRight
import ReporterBlocks.Proofs.Reporter.Step

/-! # The history of a run

A run of a reporter is a sequence of moments: an operation, the state that it
found, its turn and the state that it left (`history`).  What a run did is read
off its history: the calls that were accepted (`acceptedCalls`), those that were
refused (`refusedCalls`), those that were taken up (`takenUpCalls`), the answers
that found a caller waiting (`effectiveAnswers`), and what the host and the
script were told (`observations`).

Each of these grows by what one moment adds, so that a fact about every run is a
fact about every moment and an induction.  Three such facts are here: every call
is accepted or refused (`calls_perm`), the value of each delivery is that of an
effective answer (`map_snd_deliveries`), and no run changes the definition, the
policy or the limit of a reporter.

What has happened since the last moment of some kind is the end of the history
behind it (`since`).  It grows by the latest moment or is cut off there
(`since_concat`), which makes a flag that some moments set and others clear a fact
about it (`latch_after`).
-/

namespace ReporterBlocks
variable {κ : Type}

/-- The call that an operation makes. -/
def Action.call? : Action κ → Option (Call κ)
  | .call c => some c
  | _ => none

def Reply.isAccepted : Reply → Bool
  | .accepted => true
  | _ => false

/-- One operation in a run, with the states around it. -/
structure Moment (κ : Type) where
  before : Reporter κ
  action : Action κ
  turn : Turn κ
  after : Reporter κ

namespace Moment

/-- What the moment records is a step of the reporter. -/
def Legal (m : Moment κ) : Prop :=
  Reporter.Way m.before m.action m.turn.reply m.turn.deliveries m.after

/-- The call that is accepted. -/
def accepted? (m : Moment κ) : Option (Call κ) :=
  if m.turn.reply.isAccepted then m.action.call? else none

/-- The call that is refused. -/
def refused? (m : Moment κ) : Option (Call κ) :=
  if m.turn.reply.isAccepted then none else m.action.call?

/-- The value of an answer that finds a caller waiting. -/
def effective? (m : Moment κ) : Option Value :=
  match m.action with
  | .answer v => if m.before.isPending then some v else none
  | _ => none

/-- The call that is taken up: one that is accepted and does not join the queue,
or the one that an answer takes off the queue. -/
def takenUp? (m : Moment κ) : Option (Call κ) :=
  match m.action with
  | .call c =>
    if m.turn.reply.isAccepted && m.after.queued = m.before.queued then some c else none
  | .answer _ => if m.after.queued < m.before.queued then m.before.queue.head? else none
  | _ => none

/-- A poll or a read with what it was told. -/
def observation? (m : Moment κ) : Option (Action κ × Reply) :=
  match m.action with
  | .poll => some (.poll, m.turn.reply)
  | .read index => some (.read index, m.turn.reply)
  | _ => none

end Moment

/-- A moment delivers the value of its effective answer, as the definition admits
it, and no other. -/
theorem Moment.Legal.map_snd_deliveries {m : Moment κ} (h : m.Legal) :
    m.turn.deliveries.map Prod.snd =
      m.effective?.toList.map m.before.definition.result.admit := by
  obtain ⟨r, a, ⟨p, ds, ls⟩, r'⟩ := m
  change Reporter.Way r a p ds r' at h
  cases h <;> simp_all [Moment.effective?, Reporter.isPending, Reporter.resultOf]

theorem Moment.call_of_accepted {m : Moment κ} {c : Call κ} (h : m.accepted? = some c) :
    m.action = .call c ∧ m.turn.reply = .accepted := by
  obtain ⟨r, a, ⟨p, ds, ls⟩, r'⟩ := m
  cases p <;> cases a <;> simp_all [accepted?, Reply.isAccepted, Action.call?]

namespace Reporter

/-- The moment in which `a` is done to `r`. -/
def moment (r : Reporter κ) (a : Action κ) : Moment κ := ⟨r, a, (r.step a).1, (r.step a).2⟩

theorem moment_legal (r : Reporter κ) (a : Action κ) : (r.moment a).Legal := r.step_way a

/-- The moments of a run, in order. -/
def history (r : Reporter κ) : List (Action κ) → List (Moment κ)
  | [] => []
  | a :: as => r.moment a :: history (r.step a).2 as

/-- The state in which a run ends. -/
def after (r : Reporter κ) (as : List (Action κ)) : Reporter κ := (r.run as).2

/-- The callers that a run answers with their values, in order. -/
def deliveries (r : Reporter κ) (as : List (Action κ)) : List (κ × Value) :=
  (r.run as).1.flatMap Turn.deliveries

def acceptedCalls (r : Reporter κ) (as : List (Action κ)) : List (Call κ) :=
  (r.history as).filterMap Moment.accepted?

def refusedCalls (r : Reporter κ) (as : List (Action κ)) : List (Call κ) :=
  (r.history as).filterMap Moment.refused?

def effectiveAnswers (r : Reporter κ) (as : List (Action κ)) : List Value :=
  (r.history as).filterMap Moment.effective?

def takenUpCalls (r : Reporter κ) (as : List (Action κ)) : List (Call κ) :=
  (r.history as).filterMap Moment.takenUp?

def observations (r : Reporter κ) (as : List (Action κ)) : List (Action κ × Reply) :=
  (r.history as).filterMap Moment.observation?

/-- The moments of a run behind the last one that is `p`, or all if none is. -/
def since (r : Reporter κ) (p : Moment κ → Bool) (as : List (Action κ)) : List (Moment κ) :=
  (r.history as).rtakeWhile fun m => !p m

/-! ## Growth by one moment and by a further run -/

section Growth
variable (r : Reporter κ) (a : Action κ) (as bs : List (Action κ))

theorem run_cons :
    r.run (a :: as) = ((r.step a).1 :: ((r.step a).2.run as).1, (r.step a).2.after as) := rfl

@[simp] theorem after_nil : r.after [] = r := rfl

@[simp] theorem after_cons : r.after (a :: as) = (r.step a).2.after as := rfl

theorem after_append : r.after (as ++ bs) = (r.after as).after bs := by
  induction as generalizing r with
  | nil => rfl
  | cons a as ih => exact ih (r.step a).2

@[simp] theorem history_nil : r.history [] = [] := rfl

@[simp] theorem history_cons :
    r.history (a :: as) = r.moment a :: (r.step a).2.history as := rfl

theorem history_append : r.history (as ++ bs) = r.history as ++ (r.after as).history bs := by
  induction as generalizing r with
  | nil => rfl
  | cons a as ih => exact congrArg (r.moment a :: ·) (ih (r.step a).2)

theorem history_concat : r.history (as ++ [a]) = r.history as ++ [(r.after as).moment a] :=
  history_append r as [a]

theorem after_concat : r.after (as ++ [a]) = ((r.after as).step a).2 :=
  after_append r as [a]

@[simp] theorem since_nil (p : Moment κ → Bool) : r.since p [] = [] := List.rtakeWhile_nil _

theorem since_concat (p : Moment κ → Bool) :
    r.since p (as ++ [a]) =
      if p ((r.after as).moment a) then [] else r.since p as ++ [(r.after as).moment a] := by
  rw [since, history_concat, List.rtakeWhile_concat]
  cases p ((r.after as).moment a) <;> rfl

theorem mem_history_of_mem_since {p : Moment κ → Bool} {m : Moment κ} (hm : m ∈ r.since p as) :
    m ∈ r.history as :=
  (List.rtakeWhile_suffix _ _).subset hm

theorem turns_eq_map_history : (r.run as).1 = (r.history as).map Moment.turn := by
  induction as generalizing r with
  | nil => rfl
  | cons a as ih => exact congrArg ((r.step a).1 :: ·) (ih (r.step a).2)

@[simp] theorem deliveries_nil : r.deliveries [] = [] := rfl

@[simp] theorem deliveries_cons :
    r.deliveries (a :: as) = (r.step a).1.deliveries ++ (r.step a).2.deliveries as := by
  simp [deliveries, run_cons]

theorem deliveries_append :
    r.deliveries (as ++ bs) = r.deliveries as ++ (r.after as).deliveries bs := by
  simp only [deliveries, turns_eq_map_history, history_append, List.map_append,
    List.flatMap_append]

/-- What is read off a history moment by moment grows by what one moment adds. -/
theorem filterMap_history_cons {β : Type} (f : Moment κ → Option β) :
    (r.history (a :: as)).filterMap f =
      (f (r.moment a)).toList ++ ((r.step a).2.history as).filterMap f := by
  cases h : f (r.moment a) <;> simp [h]

theorem acceptedCalls_cons :
    r.acceptedCalls (a :: as) =
      (r.moment a).accepted?.toList ++ (r.step a).2.acceptedCalls as :=
  filterMap_history_cons r a as _

theorem refusedCalls_cons :
    r.refusedCalls (a :: as) = (r.moment a).refused?.toList ++ (r.step a).2.refusedCalls as :=
  filterMap_history_cons r a as _

theorem effectiveAnswers_cons :
    r.effectiveAnswers (a :: as) =
      (r.moment a).effective?.toList ++ (r.step a).2.effectiveAnswers as :=
  filterMap_history_cons r a as _

theorem takenUpCalls_cons :
    r.takenUpCalls (a :: as) = (r.moment a).takenUp?.toList ++ (r.step a).2.takenUpCalls as :=
  filterMap_history_cons r a as _

@[simp] theorem observations_nil : r.observations [] = [] := rfl

theorem observations_cons :
    r.observations (a :: as) =
      (r.moment a).observation?.toList ++ (r.step a).2.observations as :=
  filterMap_history_cons r a as _

theorem observations_append :
    r.observations (as ++ bs) = r.observations as ++ (r.after as).observations bs := by
  simp only [observations, history_append, List.filterMap_append]

end Growth

/-! ## Answers -/

theorem deliveries_answer (r : Reporter κ) (v : Value) :
    (r.step (.answer v)).1.deliveries = r.pending.toList.map fun k => (k, r.resultOf v) := by
  cases hk : r.pending <;> simp [step, answer, hk]

/-- Only an answer delivers, and only to the caller that is served. -/
theorem answer_of_delivered {r : Reporter κ} {a : Action κ} {k : κ} {v : Value}
    (h : (k, v) ∈ (r.step a).1.deliveries) :
    ∃ w, a = .answer w ∧ r.pending = some k ∧ v = r.definition.result.admit w := by
  have hway := r.step_way a
  generalize r.step a = e at hway h
  obtain ⟨⟨p, ds, lines⟩, r'⟩ := e
  change Way r a p ds r' at hway
  cases hway with
  | misfit | full | queued | superseding | taken | poll | read | stray => cases h
  | last w k' hpending | next w k' c cs hpending =>
    cases List.mem_singleton.mp h
    exact ⟨w, rfl, hpending, rfl⟩

theorem result_answer (r : Reporter κ) (v : Value) :
    (r.step (.answer v)).2.result = r.resultOf v := by
  cases hk : r.pending with
  | none => simp [step, answer, hk]
  | some k => cases hq : r.queue <;> simp [step, answer, hk, hq, activate]

/-! ## Facts about every run -/

section Facts
variable (r : Reporter κ) (as : List (Action κ))

theorem legal_of_mem_history {m : Moment κ} (hm : m ∈ r.history as) : m.Legal := by
  induction as generalizing r with
  | nil => cases hm
  | cons a as ih =>
    rcases List.mem_cons.mp hm with rfl | hm
    · exact r.moment_legal a
    · exact ih (r.step a).2 hm

/-- Every moment of a run begins where an earlier part of it ends. -/
theorem exists_after_of_mem_history {m : Moment κ} (hm : m ∈ r.history as) :
    ∃ bs, bs <+: as ∧ m.before = r.after bs := by
  induction as generalizing r with
  | nil => cases hm
  | cons a as ih =>
    rcases List.mem_cons.mp hm with rfl | hm
    · exact ⟨[], List.nil_prefix, rfl⟩
    · obtain ⟨bs, hbs, hbefore⟩ := ih (r.step a).2 hm
      exact ⟨a :: bs, List.cons_prefix_cons.mpr ⟨rfl, hbs⟩, hbefore⟩

/-- **A latch remembers whether it was set since it was cleared.** -/
theorem latch_after (flag : Reporter κ → Bool) {clears sets : Moment κ → Bool}
    (hstep : ∀ m : Moment κ, m.Legal →
      flag m.after = (!clears m && (flag m.before || sets m)))
    (hstart : flag r = false) : flag (r.after as) = (r.since clears as).any sets := by
  induction as using List.reverseRecOn with
  | nil => exact hstart
  | append_singleton as a ih =>
    have hone : flag ((r.after as).step a).2 =
        (!clears ((r.after as).moment a) &&
          (flag (r.after as) || sets ((r.after as).moment a))) :=
      hstep _ ((r.after as).moment_legal a)
    rw [after_concat, hone, since_concat, ih]
    cases clears ((r.after as).moment a) <;> simp

theorem after_definition : (r.after as).definition = r.definition := by
  induction as generalizing r with
  | nil => rfl
  | cons a as ih => rw [after_cons, ih, (r.step_way a).definition_eq]

theorem after_overlap : (r.after as).overlap = r.overlap := by
  induction as generalizing r with
  | nil => rfl
  | cons a as ih => rw [after_cons, ih, (r.step_way a).overlap_eq]

theorem after_queueLimit : (r.after as).queueLimit = r.queueLimit := by
  induction as generalizing r with
  | nil => rfl
  | cons a as ih => rw [after_cons, ih, (r.step_way a).queueLimit_eq]

theorem WellFormed.after {r : Reporter κ} (hr : r.WellFormed) : (r.after as).WellFormed := by
  induction as generalizing r with
  | nil => exact hr
  | cons a as ih => exact ih (hr.step a)

/-- **Every call is accepted or refused**, and none is both. -/
theorem calls_perm :
    (r.acceptedCalls as ++ r.refusedCalls as).Perm (as.filterMap Action.call?) := by
  induction as generalizing r with
  | nil => exact .nil
  | cons a as ih =>
    rw [acceptedCalls_cons, refusedCalls_cons, List.filterMap_cons]
    have hsplit := ih (r.step a).2
    cases hacc : (r.step a).1.reply.isAccepted with
    | true =>
      cases hcall : a.call? with
      | none => simpa [Moment.accepted?, Moment.refused?, moment, hacc, hcall] using hsplit
      | some c => simpa [Moment.accepted?, Moment.refused?, moment, hacc, hcall] using hsplit
    | false =>
      cases hcall : a.call? with
      | none => simpa [Moment.accepted?, Moment.refused?, moment, hacc, hcall] using hsplit
      | some c =>
        simpa [Moment.accepted?, Moment.refused?, moment, hacc, hcall] using
          List.perm_middle.trans (hsplit.cons c)

/-- **What a delivery hands over** is the value of an effective answer, as the
definition admits it. -/
theorem map_snd_deliveries :
    (r.deliveries as).map Prod.snd =
      (r.effectiveAnswers as).map r.definition.result.admit := by
  induction as generalizing r with
  | nil => rfl
  | cons a as ih =>
    rw [deliveries_cons, effectiveAnswers_cons, List.map_append, List.map_append, ih,
      (r.step_way a).definition_eq]
    exact congrArg (· ++ _) (r.moment_legal a).map_snd_deliveries

end Facts
end Reporter
end ReporterBlocks
