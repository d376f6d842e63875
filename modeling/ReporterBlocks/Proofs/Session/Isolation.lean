import Mathlib.Data.List.Forall2
import ReporterBlocks.Proofs.Reporter.History
import ReporterBlocks.Proofs.Session.History

/-! # Reporters do not disturb one another

A session multiplexes its reporters: each operation acts on one of them, on all of
them, or on none.  Seen from one reporter the rest makes no difference.  Its state, the
callers it answers with their values, and what its blocks answer are those of a
reporter of its own that performs only the actions addressed to it
(`reporters_isolated`).

The proof follows one reporter through a run.  An operation that does not act on it
leaves it as it is (`Way.untouched`), one that does is a step of it (`Way.acted`), and
before it is registered there is nothing to act on (`Way.action_eq_none`), so that it
starts fresh (`Way.newcomer`).
-/

namespace ReporterBlocks.Session
variable {κ : Type}

/-- The effect delivers what the reporter `i` delivers in its turn and answers what
that one replies; a poll of all reporters answers by listing it. -/
def Tells (i : Nat) (e : Effect κ Response) (t : Turn κ) : Prop :=
  e.deliveries = t.deliveries ∧
    match e.answer with
    | .ran outcome => t.reply.outcome? = some outcome
    | .fired ids => t.reply = .polled (decide (i ∈ ids))
    | _ => False

theorem Tells.pending_of_accepted {i : Nat} {e : Effect κ Response} {t : Turn κ} (h : Tells i e t)
    (ht : t.reply = .accepted) : e.answer = .ran (.ok .pending) := by
  obtain ⟨session, answer, ds, lines⟩ := e
  cases answer <;> simp_all [Tells, Reply.outcome?]

/-- **What an operation does is confined** to the reporters that it acts on. -/
structure Moment.Confined (m : Moment κ) : Prop where
  /-- A reporter that is not there yet is not acted on. -/
  unregistered : ∀ i, m.before.roster.reporters[i]? = none → m.actionOn i = none
  /-- A reporter that is not acted on stays as it is. -/
  others : ∀ i r, m.before.roster.reporters[i]? = some r → m.actionOn i = none →
    m.effect.session.roster.reporters[i]? = some r
  /-- Only a poll of the session acts on more than one reporter. -/
  single : ∀ i j a b, m.actionOn i = some a → m.actionOn j = some b →
    i = j ∨ m.operation = .pollAll
  /-- An operation that acts on no reporter delivers nothing. -/
  silent : (∀ i, m.actionOn i = none) → m.effect.deliveries = []
  /-- It leaves the session as it is, unless it asks for a name that is not known. -/
  unchanged : (∀ i, m.actionOn i = none) → (∀ d ∈ m.asked, d.name ∈ m.before.roster.names) →
    m.effect.session = m.before
  /-- A poll of the session lists reporters in increasing order. -/
  polls : m.operation = .pollAll → ∃ ids, m.effect.answer = .fired ids ∧
    ids.Pairwise (· < ·) ∧ ∀ i ∈ ids, i < m.before.roster.size

/-! ## One operation -/

section Step
variable {s : Session κ} {o : Operation κ} {e : Effect κ Response} {i : Nat} {r : Reporter κ}

theorem actionOn_pollAll (h : i < s.roster.size) : s.actionOn i .pollAll = some .poll :=
  if_pos h

theorem Way.untouched (hway : Way s o e) (hr : s.roster.reporters[i]? = some r)
    (hi : s.actionOn i o = none) : e.session.roster.reporters[i]? = some r := by
  obtain ⟨hlt, -⟩ := List.getElem?_eq_some_iff.mp hr
  cases hway with
  | registers _ _ _ h =>
    rw [h.roster, Roster.reporters_registerAll, List.getElem?_append_left hlt]
    exact hr
  | acts _ _ _ id a r' _ haction =>
    have hne : id ≠ i := by
      rintro rfl
      rw [haction, if_pos rfl] at hi
      cases hi
    exact (List.getElem?_set_ne hne).trans hr
  | polls =>
    rw [actionOn_pollAll hlt] at hi
    cases hi

theorem Way.acted {a : Action κ} (hway : Way s o e) (hr : s.roster.reporters[i]? = some r)
    (hi : s.actionOn i o = some a) :
    e.session.roster.reporters[i]? = some (r.step a).2 ∧ Tells i e (r.step a).1 := by
  obtain ⟨hlt, -⟩ := List.getElem?_eq_some_iff.mp hr
  cases hway with
  | registers _ _ haction =>
    rw [haction] at hi
    cases hi
  | acts _ _ _ id a' r' outcome haction hr' houtcome =>
    rw [haction] at hi
    by_cases hid : id = i
    · subst hid
      rw [if_pos rfl] at hi
      cases hi
      cases hr.symm.trans hr'
      exact ⟨List.getElem?_set_self hlt, rfl, houtcome⟩
    · rw [if_neg hid] at hi
      cases hi
  | polls =>
    rw [actionOn_pollAll hlt] at hi
    cases hi
    refine ⟨by simp [Effect.map, pollAll, hr, Reporter.step], rfl, ?_⟩
    have hlisted : i < s.roster.size := hlt
    simp [Effect.map, pollAll, Reporter.step, Reporter.poll, hr, hlisted]

theorem Way.action_eq_none (hway : Way s o e) (hi : s.roster.reporters[i]? = none) :
    s.actionOn i o = none := by
  have hle := List.getElem?_eq_none_iff.mp hi
  cases hway with
  | registers _ _ haction => exact haction i
  | acts _ _ _ id _ _ _ haction hr =>
    rw [haction]
    refine if_neg ?_
    rintro rfl
    cases hi.symm.trans hr
  | polls => exact if_neg (Nat.not_lt.mpr hle)

/-- A reporter that was not there before is fresh. -/
theorem Way.newcomer (hs : s.Sound) (hway : Way s o e) (hi : s.roster.reporters[i]? = none)
    (hr : e.session.roster.reporters[i]? = some r) :
    r = .fresh r.definition s.settings.overlap s.settings.queueLimit := by
  have hle := List.getElem?_eq_none_iff.mp hi
  cases hway with
  | registers _ _ _ h =>
    rw [h.roster, Roster.reporters_registerAll, List.getElem?_append_right hle,
      List.getElem?_map] at hr
    obtain ⟨d, -, rfl⟩ := Option.map_eq_some_iff.mp hr
    rw [hs.overlap, hs.queueLimit]
    rfl
  | acts _ _ _ id _ _ _ _ hid =>
    have hlen := (List.getElem?_eq_some_iff.mp hr).1
    simp only [put, Roster.put, List.length_set] at hlen
    omega
  | polls =>
    have hlen := (List.getElem?_eq_some_iff.mp hr).1
    simp only [Effect.map, pollAll, List.length_map] at hlen
    omega

/-- **An operation that acts on nobody registers what it asks for**, and that is all. -/
theorem Way.registers_of_no_action (hway : Way s o e) (hnone : ∀ i, s.actionOn i o = none) :
    Registers s (s.asked o) e := by
  cases hway with
  | registers _ _ _ h => exact h
  | acts _ _ _ id _ _ _ haction =>
    have hid := (haction id).symm.trans (hnone id)
    rw [if_pos rfl] at hid
    cases hid
  | polls =>
    have hempty : s.roster.reporters = [] := by
      by_contra hne
      have hzero : s.actionOn 0 .pollAll = some .poll :=
        actionOn_pollAll (List.length_pos_of_ne_nil hne)
      cases hzero.symm.trans (hnone 0)
    -- a poll that acts on nobody finds the roster empty and leaves it so
    have hsame : s.pollAll.session = s := by
      obtain ⟨settings, ⟨reporters, rows, handlers, overlap, limit⟩, palette⟩ := s
      cases hempty
      rfl
    exact ⟨congrArg Session.roster hsame, congrArg Session.settings hsame, rfl, fun _ => hsame⟩

end Step

theorem Sound.confined {s : Session κ} (hs : s.Sound) (o : Operation κ) :
    Moment.Confined ⟨s, o, s.step o⟩ where
  unregistered := fun _ hi => (hs.step_way o).action_eq_none hi
  others := fun _ _ hr hi => (hs.step_way o).untouched hr hi
  single := by
    intro i j a b hi hj
    have hway := hs.step_way o
    generalize s.step o = e at hway
    cases hway with
    | registers _ _ haction => cases (haction i).symm.trans hi
    | acts handler args caller id _ _ _ haction =>
      have haddressed : ∀ k c, s.actionOn k (.invoke handler args caller) = some c → id = k := by
        intro k c hk
        by_contra hne
        rw [haction, if_neg hne] at hk
        cases hk
      exact Or.inl ((haddressed i a hi).symm.trans (haddressed j b hj))
    | polls => exact Or.inr rfl
  silent := fun hnone => ((hs.step_way o).registers_of_no_action hnone).deliveries
  unchanged := fun hnone hknown => ((hs.step_way o).registers_of_no_action hnone).unchanged hknown
  polls := by
    rintro rfl
    refine ⟨_, rfl, List.pairwise_lt_range.filter _, ?_⟩
    intro i hi
    exact List.mem_range.mp (List.mem_of_mem_filter hi)

/-! ## A run -/

section Run
variable {s : Session κ} (hs : s.Sound) {i : Nat} {r : Reporter κ}
include hs

/-- **A reporter that is there** goes on as if it were alone. -/
theorem Sound.follows (hr : s.roster.reporters[i]? = some r) (os : List (Operation κ)) :
    (s.after os).roster.reporters[i]? = some (r.after (s.actionsOn i os)) ∧
      List.Forall₂ (Tells i) (s.effectsOn i os) (r.run (s.actionsOn i os)).1 := by
  induction os generalizing s r with
  | nil => exact ⟨hr, .nil⟩
  | cons o os ih =>
    have hway := hs.step_way o
    rw [after_cons]
    cases hi : s.actionOn i o with
    | none =>
      rw [actionsOn_cons_of_none os hi, effectsOn_cons_of_none os hi]
      exact ih (hs.step o) (hway.untouched hr hi)
    | some a =>
      obtain ⟨hr', htells⟩ := hway.acted hr hi
      obtain ⟨hafter, hturns⟩ := ih (hs.step o) hr'
      rw [actionsOn_cons_of_some os hi, effectsOn_cons_of_some os hi]
      exact ⟨hafter, .cons htells hturns⟩

/-- **A reporter that is there in the end was registered** in some moment, fresh, and
nothing was addressed to it before. -/
theorem Sound.exists_registration (hi : s.roster.reporters[i]? = none) (os : List (Operation κ))
    (hr : (s.after os).roster.reporters[i]? = some r) :
    ∃ bs os', os = bs ++ os' ∧ (s.after bs).roster.reporters[i]? =
        some (.fresh r.definition s.settings.overlap s.settings.queueLimit) ∧
      s.actionsOn i os = (s.after bs).actionsOn i os' ∧
      s.effectsOn i os = (s.after bs).effectsOn i os' := by
  induction os generalizing s with
  | nil => cases hi.symm.trans hr
  | cons o os ih =>
    have hway := hs.step_way o
    have hnone := hway.action_eq_none hi
    rw [actionsOn_cons_of_none os hnone, effectsOn_cons_of_none os hnone,
      ← hs.step_settings o]
    cases hnext : (s.step o).session.roster.reporters[i]? with
    | none =>
      obtain ⟨bs, os', rfl, hfresh, hactions, heffects⟩ := ih (hs.step o) hnext hr
      exact ⟨o :: bs, os', rfl, hfresh, hactions, heffects⟩
    | some r₀ =>
      refine ⟨[o], os, rfl, ?_, rfl, rfl⟩
      obtain ⟨hafter, -⟩ := (hs.step o).follows hnext os
      obtain rfl : r = _ := Option.some.inj (hr.symm.trans hafter)
      rw [Reporter.after_definition, hs.step_settings o, ← hway.newcomer hs hi hnext]
      exact hnext

/-- **A reporter that is not there yet** starts fresh and goes on as if it were
alone. -/
theorem Sound.starts (hi : s.roster.reporters[i]? = none) (os : List (Operation κ))
    (hr : (s.after os).roster.reporters[i]? = some r) :
    r = (Reporter.fresh r.definition s.settings.overlap s.settings.queueLimit).after
        (s.actionsOn i os) ∧
      List.Forall₂ (Tells i) (s.effectsOn i os)
        ((Reporter.fresh r.definition s.settings.overlap s.settings.queueLimit).run
          (s.actionsOn i os)).1 := by
  obtain ⟨bs, os', rfl, hfresh, hactions, heffects⟩ := hs.exists_registration hi os hr
  obtain ⟨hafter, hturns⟩ := (hs.after bs).follows hfresh os'
  rw [hactions, heffects]
  rw [after_append] at hr
  exact ⟨Option.some.inj (hr.symm.trans hafter), hturns⟩

end Run

/-- **Reporters are isolated.**  In every run from the start of a session each reporter
is in the state, has delivered the values and has given the answers of a reporter of
its own that performed the actions addressed to it and no others, and what an operation
does is confined to the reporters that it acts on. -/
theorem reporters_isolated (settings : Settings) (palette : Palette)
    (os : List (Operation κ)) :
    let s : Session κ := start settings palette
    (∀ i r, (s.after os).roster.reporters[i]? = some r →
      let alone : Reporter κ := .fresh r.definition settings.overlap settings.queueLimit
      r = alone.after (s.actionsOn i os) ∧
        List.Forall₂ (Tells i) (s.effectsOn i os) (alone.run (s.actionsOn i os)).1) ∧
    (∀ m ∈ s.history os, m.Confined) ∧
    (s.run os).answer = (s.history os).map (fun m => m.effect.answer) ∧
    (s.run os).deliveries = (s.history os).flatMap fun m => m.effect.deliveries := by
  intro s
  have hs : s.Sound := start_sound settings palette
  refine ⟨?_, ?_, s.answer_run os, s.deliveries_run os⟩
  · intro i r hr
    have hempty : s.roster.reporters[i]? = none := List.getElem?_nil
    exact hs.starts hempty os hr
  · intro m hm
    obtain ⟨hbefore, heffect⟩ := hs.of_mem_history hm
    obtain ⟨before, o, e⟩ := m
    obtain rfl : e = before.step o := heffect
    exact hbefore.confined o

/-- A caller waits at one reporter while its name is defined again and another reporter
is called, and is answered at last. -/
theorem reporters_isolated_redefined :
    let s : Session Nat := start ⟨"blocks", .queue, 1⟩ .empty
    let os : List (Operation Nat) := [.reload "f", .reload "g",
      .invoke "callr_funcf" [] (some 1), .definePredicate "f", .pollAll,
      .invoke "callr_funcg" [] (some 2), .invoke "retr_funcf" [.text "yes"] none]
    ∃ r, (s.after os).roster.reporters[0]? = some r ∧ (s.actionsOn 0 os).length = 3 ∧
      r = (Reporter.fresh r.definition .queue 1).after (s.actionsOn 0 os) := by
  intro s os
  have hthere : (s.after os).roster.reporters[0]?.isSome = true := by decide +kernel
  have hlength : (s.actionsOn 0 os).length = 3 := by decide +kernel
  obtain ⟨r, hr⟩ := Option.isSome_iff_exists.mp hthere
  exact ⟨r, hr, hlength, ((reporters_isolated ⟨"blocks", .queue, 1⟩ .empty os).1 0 r hr).1⟩

end ReporterBlocks.Session
