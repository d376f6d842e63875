import ReporterBlocks.Proofs.Reporter.History

/-! # When a poll fires

The trigger of a reporter is a latch.  A call that is taken up sets it, a poll that
fires clears it, and nothing else touches it (`Moment.Legal.armed_after`).  Hence a
poll fires exactly if a call was taken up since the last one that fired
(`poll_fires_iff_taken_up`).

Answers leave the trigger alone.  An answer can therefore come too early: the caller
has its value, and the poll that reports the call is still to come.  This is the one
way in which a poll fires with nobody waiting (`fires_idle_iff_early_answer`); it does
happen (`poll_fires_with_nobody_waiting`), and where every answer comes after the poll
it does not.
-/

namespace ReporterBlocks
variable {κ : Type}

namespace Moment

/-- A poll that tells the host to run the script. -/
def fires (m : Moment κ) : Bool :=
  match m.turn.reply with
  | .polled armed => armed
  | _ => false

/-- An answer to a caller whose call no poll has reported, with nobody in the queue
behind it. -/
def early (m : Moment κ) : Bool :=
  match m.action with
  | .answer _ => m.before.isPending && m.before.armed && m.takenUp?.isNone
  | _ => false

/-- The moment does not concern the trigger: a call that is refused or joins the
queue, a read, or an answer for which nobody waits. -/
def Inert (m : Moment κ) : Prop :=
  match m.action with
  | .call _ => m.turn.reply.isAccepted = false ∨ m.before.queued < m.after.queued
  | .poll => False
  | .read _ => True
  | .answer _ => m.before.isPending = false

section OneMoment
variable {m : Moment κ} (h : m.Legal)
include h

/-- **What sets and clears the trigger.** -/
theorem Legal.armed_after :
    m.after.armed = (!m.fires && (m.before.armed || m.takenUp?.isSome)) := by
  obtain ⟨r, a, ⟨p, ds, ls⟩, r'⟩ := m
  change Reporter.Way r a p ds r' at h
  cases h <;>
    simp_all [fires, takenUp?, Reply.isAccepted, Reporter.queued, Reporter.activate]

/-- The trigger outlives its caller if the answer was early. -/
theorem Legal.armed_idle_after :
    (m.after.armed && !m.after.isPending) =
      (!(m.fires || m.takenUp?.isSome) &&
        ((m.before.armed && !m.before.isPending) || m.early)) := by
  obtain ⟨r, a, ⟨p, ds, ls⟩, r'⟩ := m
  change Reporter.Way r a p ds r' at h
  cases h <;>
    simp_all [fires, early, takenUp?, Reply.isAccepted, Reporter.queued, Reporter.activate,
      Reporter.isPending]

/-- A poll that fires uses up a call that was taken up. -/
theorem Legal.fires_add_armed_le :
    m.fires.toNat + m.after.armed.toNat ≤
      m.before.armed.toNat + m.takenUp?.toList.length := by
  obtain ⟨r, a, ⟨p, ds, ls⟩, r'⟩ := m
  change Reporter.Way r a p ds r' at h
  cases h <;>
    simp_all [fires, takenUp?, Reply.isAccepted, Reporter.queued, Reporter.activate]

theorem Legal.inert (hm : m.Inert) :
    m.takenUp? = none ∧ m.after.armed = m.before.armed := by
  obtain ⟨r, a, ⟨p, ds, ls⟩, r'⟩ := m
  change Reporter.Way r a p ds r' at h
  cases h <;>
    simp_all [Inert, takenUp?, Reply.isAccepted, Reporter.queued, Reporter.activate,
      Reporter.isPending]

end OneMoment
end Moment

namespace Reporter

section Run
variable (r : Reporter κ) (as : List (Action κ))

variable {r} in
/-- The trigger is set exactly if a call was taken up since a poll fired. -/
theorem armed_after (hr : r.armed = false) :
    (r.after as).armed = (r.since Moment.fires as).any fun m => m.takenUp?.isSome :=
  r.latch_after as armed (fun _ hm => hm.armed_after) hr

variable {r} in
/-- It is set with nobody waiting exactly if there was an early answer, and since then
no call was taken up and no poll fired. -/
theorem armed_idle_after (hr : r.armed = false) :
    ((r.after as).armed && !(r.after as).isPending) =
      (r.since (fun m => m.fires || m.takenUp?.isSome) as).any Moment.early := by
  refine r.latch_after as (fun r => r.armed && !r.isPending)
    (fun _ hm => hm.armed_idle_after) ?_
  rw [hr, Bool.false_and]

/-- Polls do not fire more often than calls are taken up. -/
theorem countP_fires_add_armed_le :
    (r.history as).countP Moment.fires + (r.after as).armed.toNat ≤
      r.armed.toNat + (r.takenUpCalls as).length := by
  induction as generalizing r with
  | nil => simp
  | cons a as ih =>
    have hone : (r.moment a).fires.toNat + (r.step a).2.armed.toNat ≤
        r.armed.toNat + (r.moment a).takenUp?.toList.length :=
      (r.moment_legal a).fires_add_armed_le
    have hrest := ih (r.step a).2
    rw [history_cons, List.countP_cons, takenUpCalls_cons, List.length_append, after_cons]
    cases hf : (r.moment a).fires with
    | true =>
      rw [hf, Bool.toNat_true] at hone
      rw [if_pos rfl]
      omega
    | false =>
      rw [if_neg (by decide)]
      omega

theorem step_poll_fires_iff : (r.step .poll).1.reply = .polled true ↔ r.armed = true := by
  simp [step, poll]

end Run

/-- **A poll fires exactly if something was taken up** since the last poll that fired.
So between a poll and a later one that fires some call is taken up, no more polls fire
than calls are taken up, and what is inert leaves the trigger as it is. -/
theorem poll_fires_iff_taken_up (d : Definition) (o : Overlap) (limit : Nat)
    (as : List (Action κ)) :
    let r : Reporter κ := fresh d o limit
    let fires (bs : List (Action κ)) := ((r.after bs).step .poll).1.reply = .polled true
    (fires as ↔ ∃ m ∈ r.since Moment.fires as, m.takenUp?.isSome) ∧
      (∀ bs, fires (as ++ .poll :: bs) → (r.after (as ++ [.poll])).takenUpCalls bs ≠ []) ∧
      (r.history as).countP Moment.fires ≤ (r.takenUpCalls as).length ∧
      ∀ m ∈ r.history as, m.Inert → m.takenUp? = none ∧ m.after.armed = m.before.armed := by
  intro r fires
  refine ⟨?_, ?_, ?_, fun m hm => (r.legal_of_mem_history as hm).inert⟩
  · refine (step_poll_fires_iff (r.after as)).trans ?_
    rw [armed_after as rfl, List.any_eq_true]
  · intro bs hfires
    have hsplit : r.after (as ++ .poll :: bs) = (r.after (as ++ [.poll])).after bs := by
      rw [← after_append, List.append_assoc, List.singleton_append]
    have hcleared : (r.after (as ++ [.poll])).armed = false := by
      rw [after_concat]
      rfl
    -- the first poll has cleared the trigger, so what set it came behind that poll
    have harmed := (step_poll_fires_iff _).mp hfires
    rw [hsplit, armed_after bs hcleared, List.any_eq_true] at harmed
    obtain ⟨m, hm, htaken⟩ := harmed
    obtain ⟨c, hc⟩ := Option.isSome_iff_exists.mp htaken
    exact List.ne_nil_of_mem
      (List.mem_filterMap.mpr ⟨m, mem_history_of_mem_since _ bs hm, hc⟩)
  · have hcount := r.countP_fires_add_armed_le as
    have hstart : r.armed.toNat = 0 := rfl
    omega

/-- A call waits in the queue while a poll fires and is taken up when the first caller
is answered: the next poll fires again. -/
theorem poll_fires_iff_taken_up_queued :
    let d : Definition := ⟨"f", [.text "f"], "funcf", [], .reporter⟩
    let r : Reporter Nat := fresh d .queue 1
    let as : List (Action Nat) := [.call ⟨[], 1⟩, .call ⟨[], 2⟩]
    let bs : List (Action Nat) := [.read 0, .answer (.text "yes"), .call ⟨[], 3⟩]
    ((r.after (as ++ .poll :: bs)).step .poll).1.reply = .polled true ∧
      (r.after (as ++ [.poll])).takenUpCalls bs ≠ [] := by
  intro d r as bs
  have hfires : ((r.after (as ++ .poll :: bs)).step .poll).1.reply = .polled true := rfl
  exact ⟨hfires, (poll_fires_iff_taken_up d .queue 1 as).2.1 bs hfires⟩

/-! ## Answers that come too early -/

/-- **A poll can fire with nobody waiting**, if the answer comes before it. -/
theorem poll_fires_with_nobody_waiting :
    let d : Definition := ⟨"f", [.text "f"], "funcf", [], .reporter⟩
    let r : Reporter Nat :=
      (fresh d .supersede 64).after [.call ⟨[], 1⟩, .answer (.text "yes")]
    r.armed = true ∧ r.isPending = false ∧ (r.step .poll).1.reply = .polled true :=
  ⟨rfl, rfl, rfl⟩

/-- **The trigger is set with nobody waiting exactly if an early answer** has come
since the last call was taken up and the last poll fired; so polls of an idle reporter
fire in this case and no other.  Where no answer is early, the trigger means that a
caller waits, and every poll that fires finds one. -/
theorem fires_idle_iff_early_answer (d : Definition) (o : Overlap) (limit : Nat)
    (as : List (Action κ)) :
    let r : Reporter κ := fresh d o limit
    let s := r.after as
    let forestalled := ∃ m ∈ r.since (fun m => m.fires || m.takenUp?.isSome) as, m.early
    ((s.armed = true ∧ s.isPending = false) ↔ forestalled) ∧
      (s.isPending = false → ((s.step .poll).1.reply = .polled true ↔ forestalled)) ∧
      ((∀ m ∈ r.history as, m.early = false) →
        (s.armed = true → s.isPending = true) ∧
        ((s.step .poll).1.reply = .polled true → s.isPending = true)) := by
  intro r s forestalled
  have hiff : (s.armed = true ∧ s.isPending = false) ↔ forestalled := by
    have hlatch : (s.armed && !s.isPending) = true ↔ forestalled := by
      rw [armed_idle_after as rfl, List.any_eq_true]
    rwa [Bool.and_eq_true, Bool.not_eq_true'] at hlatch
  refine ⟨hiff, ?_, ?_⟩
  · intro hidle
    rw [step_poll_fires_iff, ← hiff, and_iff_left hidle]
  · intro hprompt
    have hwaits : s.armed = true → s.isPending = true := by
      intro harmed
      by_contra hidle
      obtain ⟨m, hm, hearly⟩ := hiff.mp ⟨harmed, Bool.not_eq_true _ ▸ hidle⟩
      rw [hprompt m (mem_history_of_mem_since _ as hm)] at hearly
      cases hearly
    exact ⟨hwaits, fun hfires => hwaits ((step_poll_fires_iff s).mp hfires)⟩

/-- The answer comes after the poll, and the poll of the next call finds its caller. -/
theorem fires_idle_iff_early_answer_prompt :
    let d : Definition := ⟨"f", [.text "f"], "funcf", [], .reporter⟩
    let r : Reporter Nat := fresh d .supersede 64
    let as : List (Action Nat) := [.call ⟨[], 1⟩, .poll, .answer (.text "yes"), .call ⟨[], 2⟩]
    (∀ m ∈ r.history as, m.early = false) ∧ (r.after as).armed = true ∧
      (r.after as).isPending = true := by
  intro d r as
  have hprompt : ∀ m ∈ r.history as, m.early = false := by decide
  have harmed : (r.after as).armed = true := rfl
  obtain ⟨-, -, hwaits⟩ := fires_idle_iff_early_answer d .supersede 64 as
  exact ⟨hprompt, harmed, (hwaits hprompt).1 harmed⟩

end Reporter
end ReporterBlocks
