import Mathlib.Data.List.Perm.Basic
import ReporterBlocks.Proofs.Reporter.History

/-! # The newest caller is answered

Under the `supersede` policy a reporter has one place for a caller.  An accepted call
takes it, and the caller who had it leaves unanswered; an answer frees it.  So callers
leave in the order in which they came, each either answered or superseded
(`pending_append_acceptedCalls`), and of those who came since the last answer only the
newest is still there (`contenders_callers`).

`newest_caller_answered` says what this means for a fresh reporter: an answer goes to
the newest caller and to nobody else, and a caller who was superseded is not answered
however the run goes on.
-/

namespace ReporterBlocks
variable {κ : Type}

namespace Moment

/-- The caller whose place an accepted call takes. -/
def superseded? (m : Moment κ) : Option κ :=
  match m.action with
  | .call _ => if m.takenUp?.isSome then m.before.pending else none
  | _ => none

/-- The callers that leave: those who are answered and the one who is superseded. -/
def departed (m : Moment κ) : List κ :=
  m.turn.deliveries.map Prod.fst ++ m.superseded?.toList

section OneMoment
variable {m : Moment κ} (h : m.Legal) (hm : m.before.WellFormed)
  (hpolicy : m.before.overlap = .supersede)
include h hm hpolicy

/-- **One place for a caller**: who was there and who comes leaves or is there now. -/
theorem Legal.pending_append_accepted :
    m.before.pending.toList ++ m.accepted?.toList.map Call.caller =
      m.departed ++ m.after.pending.toList := by
  have hqueue := hm.policy hpolicy
  obtain ⟨r, a, ⟨p, ds, ls⟩, r'⟩ := m
  change Reporter.Way r a p ds r' at h
  cases h <;>
    simp_all [departed, superseded?, accepted?, takenUp?, Action.call?, Reply.isAccepted,
      Reporter.queued, Reporter.activate]

/-- An answer to a caller leaves the place free. -/
theorem Legal.pending_eq_none_of_effective (heffective : m.effective?.isSome) :
    m.after.pending = none := by
  have hqueue := hm.policy hpolicy
  obtain ⟨r, a, ⟨p, ds, ls⟩, r'⟩ := m
  change Reporter.Way r a p ds r' at h
  cases h <;> simp_all [effective?, Reporter.isPending]

end OneMoment

/-- Only an effective answer delivers. -/
theorem Legal.departed_eq_superseded {m : Moment κ} (h : m.Legal)
    (heffective : m.effective? = none) : m.departed = m.superseded?.toList := by
  have hvalues := h.map_snd_deliveries
  rw [heffective, Option.toList_none, List.map_nil, List.map_eq_nil_iff] at hvalues
  rw [departed, hvalues, List.map_nil, List.nil_append]

end Moment

namespace Reporter

def supersededCallers (r : Reporter κ) (as : List (Action κ)) : List κ :=
  (r.history as).filterMap Moment.superseded?

/-- The calls accepted since the last answer that found a caller waiting. -/
def contenders (r : Reporter κ) (as : List (Action κ)) : List (Call κ) :=
  (r.since (fun m => m.effective?.isSome) as).filterMap Moment.accepted?

theorem mem_supersededCallers_append {r : Reporter κ} {as : List (Action κ)} {k : κ}
    (hk : k ∈ r.supersededCallers as) (bs : List (Action κ)) :
    k ∈ r.supersededCallers (as ++ bs) := by
  rw [supersededCallers, history_append, List.filterMap_append]
  exact List.mem_append_left _ hk

section Run
variable {r : Reporter κ} (hr : r.WellFormed) (hpolicy : r.overlap = .supersede)
  (as : List (Action κ))
include hr hpolicy

/-- Callers leave in the order in which they came. -/
theorem pending_append_acceptedCalls :
    r.pending.toList ++ (r.acceptedCalls as).map Call.caller =
      (r.history as).flatMap Moment.departed ++ (r.after as).pending.toList := by
  induction as generalizing r with
  | nil => simp [acceptedCalls]
  | cons a as ih =>
    have hone : r.pending.toList ++ (r.moment a).accepted?.toList.map Call.caller =
        (r.moment a).departed ++ (r.step a).2.pending.toList :=
      (r.moment_legal a).pending_append_accepted hr hpolicy
    have hrest := ih (hr.step a) ((r.step_way a).overlap_eq.trans hpolicy)
    rw [acceptedCalls_cons, List.map_append, ← List.append_assoc, hone, List.append_assoc,
      hrest, history_cons, List.flatMap_cons, List.append_assoc, after_cons]

/-- **Every caller was answered, superseded, or is the one that waits.** -/
theorem pending_append_acceptedCalls_perm :
    (r.pending.toList ++ (r.acceptedCalls as).map Call.caller).Perm
      ((r.deliveries as).map Prod.fst ++ r.supersededCallers as ++
        (r.after as).pending.toList) := by
  have hdeliveries : (r.deliveries as).map Prod.fst =
      (r.history as).flatMap fun m => m.turn.deliveries.map Prod.fst := by
    rw [deliveries, turns_eq_map_history, List.flatMap_map, List.map_flatMap]
  have hsuperseded : r.supersededCallers as =
      (r.history as).flatMap fun m => m.superseded?.toList :=
    List.filterMap_eq_flatMap_toList _ _
  rw [pending_append_acceptedCalls hr hpolicy, hdeliveries, hsuperseded]
  exact (List.flatMap_append_perm _ _ _).symm.append_right _

/-- **Of the callers since the last answer** all are superseded but the one that
waits, who came last. -/
theorem contenders_callers (hidle : r.pending = none) :
    (r.contenders as).map Call.caller =
      (r.since (fun m => m.effective?.isSome) as).filterMap Moment.superseded? ++
        (r.after as).pending.toList := by
  induction as using List.reverseRecOn with
  | nil => simp [contenders, hidle]
  | append_singleton as a ih =>
    have hlegal := (r.after as).moment_legal a
    have hwf : ((r.after as).moment a).before.WellFormed := hr.after as
    have hsame : ((r.after as).moment a).before.overlap = .supersede :=
      (r.after_overlap as).trans hpolicy
    have hnext : r.after (as ++ [a]) = ((r.after as).moment a).after := after_concat r a as
    rw [contenders, since_concat, hnext]
    cases heffective : ((r.after as).moment a).effective? with
    | some v =>
      rw [hlegal.pending_eq_none_of_effective hwf hsame (by rw [heffective]; rfl)]
      rfl
    | none =>
      have hone : (r.after as).pending.toList ++
          ((r.after as).moment a).accepted?.toList.map Call.caller =
          ((r.after as).moment a).superseded?.toList ++
            ((r.after as).moment a).after.pending.toList := by
        rw [← hlegal.departed_eq_superseded heffective]
        exact hlegal.pending_append_accepted hwf hsame
      have hlast {β : Type} (f : Moment κ → Option β) :
          [(r.after as).moment a].filterMap f = (f ((r.after as).moment a)).toList := by
        rw [List.filterMap_eq_flatMap_toList, List.flatMap_singleton]
      rw [Option.isSome_none, if_neg (by decide), List.filterMap_append, List.map_append,
        List.filterMap_append, hlast, hlast, List.append_assoc, ← hone, ← List.append_assoc]
      exact congrArg (· ++ _) ih

/-- The newest contender is the caller that waits. -/
theorem getLast?_contenders (hidle : r.pending = none) {k : κ}
    (hk : (r.after as).pending = some k) :
    ∃ c, (r.contenders as).getLast? = some c ∧ c.caller = k := by
  have hcallers := contenders_callers hr hpolicy as hidle
  rw [hk] at hcallers
  have hlast := congrArg List.getLast? hcallers
  rw [List.getLast?_map, Option.toList_some, List.getLast?_concat] at hlast
  exact Option.map_eq_some_iff.mp hlast

/-- The contenders before the newest are superseded. -/
theorem caller_mem_supersededCallers (hidle : r.pending = none) {c : Call κ}
    (hc : c ∈ (r.contenders as).dropLast) : c.caller ∈ r.supersededCallers as := by
  have hcallers := contenders_callers hr hpolicy as hidle
  have hmem : c.caller ∈ ((r.contenders as).map Call.caller).dropLast := by
    rw [← List.map_dropLast]
    exact List.mem_map_of_mem hc
  have hsince : c.caller ∈
      (r.since (fun m => m.effective?.isSome) as).filterMap Moment.superseded? := by
    rw [hcallers] at hmem
    cases hk : (r.after as).pending with
    | none =>
      rw [hk, Option.toList_none, List.append_nil] at hmem
      exact List.dropLast_subset _ hmem
    | some k =>
      rw [hk, Option.toList_some, List.dropLast_concat] at hmem
      exact hmem
  obtain ⟨m, hm, hcaller⟩ := List.mem_filterMap.mp hsince
  exact List.mem_filterMap.mpr ⟨m, mem_history_of_mem_since r as hm, hcaller⟩

/-- If no two calls come from one caller, no caller is answered twice, and none who is
superseded is answered at all. -/
theorem nodup_deliveries_append_superseded (hidle : r.pending = none)
    (hnodup : ((as.filterMap Action.call?).map Call.caller).Nodup) :
    ((r.deliveries as).map Prod.fst ++ r.supersededCallers as).Nodup := by
  have hcalls := ((r.calls_perm as).map Call.caller).nodup_iff.mpr hnodup
  rw [List.map_append] at hcalls
  have haccepted : ((r.acceptedCalls as).map Call.caller).Nodup := (List.nodup_append.mp hcalls).1
  have hperm := pending_append_acceptedCalls_perm hr hpolicy as
  rw [hidle, Option.toList_none, List.nil_append] at hperm
  exact (List.nodup_append.mp (hperm.nodup_iff.mp haccepted)).1

end Run

/-- **Under the `supersede` policy the newest caller is answered** and nobody is
answered twice.  An answer that finds a caller waiting goes to the last of those
accepted since the previous such answer, with its value, or the truth of it where the
definition is that of a predicate; one that finds nobody waiting goes to nobody, and both
are kept as the result.  At
every point an accepted caller was answered, was superseded, or is the one that waits.
If no two calls come from one caller, none of those who came before the newest is ever
answered, however the run goes on. -/
theorem newest_caller_answered (d : Definition) (limit : Nat) (as : List (Action κ)) :
    let r : Reporter κ := fresh d .supersede limit
    let s := r.after as
    (∀ v,
      (s.isPending = true → ∃ c, (r.contenders as).getLast? = some c ∧
        (s.step (.answer v)).1.deliveries =
          [(c.caller, if d.result = .boolean then .boolean v.truthy else v)]) ∧
      (s.isPending = false → (s.step (.answer v)).1.deliveries = []) ∧
      (s.step (.answer v)).2.result = if d.result = .boolean then .boolean v.truthy else v) ∧
    ((r.acceptedCalls as).map Call.caller).Perm
      ((r.deliveries as).map Prod.fst ++ r.supersededCallers as ++ s.pending.toList) ∧
    (r.acceptedCalls as).length =
      (r.deliveries as).length + (r.supersededCallers as).length +
        (if s.isPending then 1 else 0) ∧
    s.queued = 0 ∧
    ∀ bs, (((as ++ bs).filterMap Action.call?).map Call.caller).Nodup →
      ((r.deliveries (as ++ bs)).map Prod.fst).Nodup ∧
      (∀ k ∈ r.supersededCallers as, k ∉ (r.deliveries (as ++ bs)).map Prod.fst) ∧
      ∀ c ∈ (r.contenders as).dropLast, c.caller ∉ (r.deliveries (as ++ bs)).map Prod.fst := by
  intro r s
  have hr : r.WellFormed := fresh_wellFormed d .supersede limit
  have hresult (v : Value) :
      s.resultOf v = if d.result = .boolean then .boolean v.truthy else v := by
    rw [resultOf, after_definition]
    exact d.result.admit_eq v
  have hperm : ((r.acceptedCalls as).map Call.caller).Perm
      ((r.deliveries as).map Prod.fst ++ r.supersededCallers as ++ s.pending.toList) :=
    pending_append_acceptedCalls_perm hr rfl as
  refine ⟨?_, hperm, ?_, ?_, ?_⟩
  · intro v
    rw [deliveries_answer, result_answer, hresult]
    refine ⟨?_, ?_, rfl⟩
    · intro hpending
      obtain ⟨k, hk⟩ := Option.isSome_iff_exists.mp hpending
      obtain ⟨c, hc, rfl⟩ := getLast?_contenders hr rfl as rfl hk
      exact ⟨c, hc, by rw [hk, Option.toList_some, List.map_singleton]⟩
    · intro hpending
      have hnone : s.pending = none := by simpa [isPending] using hpending
      rw [hnone]
      rfl
  · have hlength := hperm.length_eq
    simp only [List.length_append, List.length_map] at hlength
    rw [hlength]
    cases hk : s.pending <;> simp [isPending, hk]
  · have hqueue := (hr.after as).policy (r.after_overlap as)
    rw [queued, hqueue, List.length_nil]
  · intro bs hnodup
    have hleft := nodup_deliveries_append_superseded hr rfl (as ++ bs) rfl hnodup
    obtain ⟨hanswered, -, hapart⟩ := List.nodup_append.mp hleft
    -- who is superseded at some point stays superseded in every continuation
    have hnever : ∀ k ∈ r.supersededCallers as,
        k ∉ (r.deliveries (as ++ bs)).map Prod.fst := by
      intro k hk hdelivered
      exact hapart k hdelivered k (mem_supersededCallers_append hk bs) rfl
    refine ⟨hanswered, hnever, ?_⟩
    intro c hc
    exact hnever c.caller (caller_mem_supersededCallers hr rfl as rfl hc)

/-- Two callers of a predicate after an answer, of whom the first is superseded: the next
answer goes to the second, as a truth value, and later ones find nobody. -/
theorem newest_caller_answered_twice :
    let d : Definition := ⟨"f [x] ", [.text "f ", .slot .string], "funcf",
      [⟨"x", .reporter, .string⟩], .boolean⟩
    let r : Reporter Nat := fresh d .supersede 0
    let as : List (Action Nat) := [.call ⟨[.text "a"], 1⟩, .poll, .answer (.text "yes"),
      .call ⟨[.text "b"], 2⟩, .call ⟨[], 3⟩, .call ⟨[.text "c"], 4⟩]
    let bs : List (Action Nat) := [.answer (.text "0"), .answer (.text "late")]
    (r.after as).isPending = true ∧
      (((as ++ bs).filterMap Action.call?).map Call.caller).Nodup ∧
      ((r.after as).step (.answer (.text "0"))).1.deliveries = [(4, .boolean false)] ∧
      ((r.after as).step (.answer (.text "yes"))).2.result = .boolean true ∧
      2 ∉ (r.deliveries (as ++ bs)).map Prod.fst := by
  intro d r as bs
  have hpending : (r.after as).isPending = true := rfl
  have hnodup : (((as ++ bs).filterMap Action.call?).map Call.caller).Nodup := by decide
  have hsuperseded : (2 : Nat) ∈ r.supersededCallers as := List.mem_singleton_self _
  obtain ⟨hanswers, -, -, -, hlater⟩ := newest_caller_answered d 0 as
  obtain ⟨c, hc, hdeliveries⟩ := (hanswers (.text "0")).1 hpending
  have hnewest : (r.contenders as).getLast? = some ⟨[.text "c"], 4⟩ := rfl
  obtain rfl := Option.some.inj (hnewest.symm.trans hc)
  exact ⟨hpending, hnodup, hdeliveries, (hanswers (.text "yes")).2.2,
    (hlater bs hnodup).2.1 2 hsuperseded⟩

end Reporter
end ReporterBlocks
