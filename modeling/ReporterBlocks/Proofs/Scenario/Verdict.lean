import Mathlib.Data.List.Forall2
import Mathlib.Data.Option.Basic
import ReporterBlocks.Proofs.Scenario.Troupe
import ReporterBlocks.Proofs.Session.Showing

/-! # What a scenario passes on

A scenario is played through the handlers of a session, and what goes wrong is worked out from
the answers.  Here playing is compared with the troupe of the scenario performing its steps:
a step meets no mishap exactly if it goes as it is meant to (`Step.goes_iff`), hence so for
all of them (`Step.goAll_iff`), and the session that they leave has the troupe that they
leave.  What is told at the end is told of that troupe (`length_rows`), so that a scenario
passes exactly if it is fulfilled (`passes_iff_fulfilled`).
-/

namespace ReporterBlocks

theorem Definition.length_rows (d : Definition) : d.rows.length = 3 + d.arity := by
  simp only [rows, List.length_cons, List.length_mapIdx, arity]
  omega

namespace Outcome

@[simp] theorem triggered_beq (a b : Bool) : (triggered a == triggered b) = decide (a = b) := rfl

@[simp] theorem value_beq (v w : Value) : (value v == value w) = (v == w) := rfl

end Outcome

namespace Step

/-- What is wrong with the answer to the block that a step runs. -/
def judge : Step → Except Fault Outcome → Option Mishap
  | reload _ => mishap? fun _ => none
  | call _ _ _ error => callMishap? error
  | poll reporter armed => mishap? fun o =>
    if o == .triggered armed then none else some (.polled reporter armed o)
  | read reporter index expected => mishap? fun o =>
    if o == .value expected then none else some (.read reporter index expected o)
  | answer _ _ => mishap? fun _ => none

section Plays
variable {number : Nat} {step : Step} {name : String} {a : Action String}

/-- A step runs the block of its action. -/
theorem play_eq (haction : step.action? number = some (name, a)) (s : Session String) :
    step.play number s = (s.invoke (a.form name).text a.args a.caller?).map step.judge := by
  cases step with
  | reload => cases haction
  | _ =>
    simp only [action?, Option.some.injEq, Prod.mk.injEq] at haction
    obtain ⟨rfl, rfl⟩ := haction
    rfl

/-- **Nothing is wrong with what is expected.**  Where there is no value to read, the
dispatcher refuses. -/
theorem judge_eq_none_iff (haction : step.action? number = some (name, a)) {p : Reply}
    (hp : a.Suits p) (f : Fault) :
    step.judge (p.outcome?.getD (.error f)) = none ↔ step.Expects p := by
  cases step with
  | reload => cases haction
  | call reporter args tag error =>
    simp only [action?, Option.some.injEq, Prod.mk.injEq] at haction
    obtain ⟨-, rfl⟩ := haction
    cases hp with
    | accepted => cases error <;> simp [judge, Reply.outcome?, callMishap?, Expects]
    | refused =>
      cases error <;>
        simp [judge, Reply.outcome?, callMishap?, Expects, Text.occursIn_iff]
  | poll reporter armed =>
    simp only [action?, Option.some.injEq, Prod.mk.injEq] at haction
    obtain ⟨-, rfl⟩ := haction
    cases hp with
    | polled armed' => simp [judge, Reply.outcome?, mishap?, Expects]
    | refused => simp [judge, Reply.outcome?, mishap?, Expects]
  | read reporter index expected =>
    simp only [action?, Option.some.injEq, Prod.mk.injEq] at haction
    obtain ⟨-, rfl⟩ := haction
    cases hp with
    | value _ v =>
      cases v with
      | none => simp [judge, Reply.outcome?, mishap?, Expects]
      | some v =>
        simp only [judge, Reply.outcome?, mishap?, Expects, ← Value.beq_iff]
        cases hv : v == expected <;> simp [hv]
    | refused => simp [judge, Reply.outcome?, mishap?, Expects]
  | answer reporter v =>
    simp only [action?, Option.some.injEq, Prod.mk.injEq] at haction
    obtain ⟨-, rfl⟩ := haction
    cases hp <;> simp [judge, Reply.outcome?, mishap?, Expects]

end Plays

end Step

/-! ## The steps -/

namespace Step

/-- Playing a step is an operation on the session. -/
theorem exists_operation (number : Nat) (step : Step) (s : Session String) :
    ∃ o, (step.play number s).session = (s.step o).session := by
  cases step with
  | reload spec => exact ⟨.invoke HandlerName.reload [.text spec] none, rfl⟩
  | call reporter args tag error =>
    exact ⟨.invoke (HandlerName.call (nameOf reporter)) args (some _), rfl⟩
  | poll reporter => exact ⟨.invoke (HandlerName.poll (nameOf reporter)) [] none, rfl⟩
  | read reporter index => exact ⟨.invoke (HandlerName.read (nameOf reporter) index) [] none, rfl⟩
  | answer reporter v => exact ⟨.invoke (HandlerName.answer (nameOf reporter)) [v] none, rfl⟩

section Playing
variable {s : Session String} (hs : s.Sound) {number : Nat} {ds : List (String × Value)}
  {t : Troupe String}
include hs

theorem goes_reload_iff (spec : String) :
    Goes number s.roster.troupe (reload spec) ds t ↔
      ((reload spec).play number s).answer = none ∧ ds = ((reload spec).play number s).deliveries ∧
        t = ((reload spec).play number s).session.roster.troupe := by
  have hh := (hs.coherent.handler?_eq_reload_iff _).mpr rfl
  have hplay : (reload spec).play number s = (s.reload spec).map fun _ => none := by
    simp only [play, Session.invoke, hh]
    rfl
  obtain ⟨hroster, -, hdeliveries, -⟩ := Session.install_registers s (.reporter spec)
  have hsession : (s.reload spec).session.roster.troupe =
      s.roster.troupe.define (.reporter spec) := by
    rw [Session.reload, hroster, Roster.troupe_registerAll]
    rfl
  rw [hplay]
  constructor
  · rintro (_ | ⟨haction, -⟩)
    · exact ⟨rfl, hdeliveries.symm, hsession.symm⟩
    · cases haction
  · rintro ⟨-, rfl, rfl⟩
    have hgoes : Goes number s.roster.troupe (reload spec) [] _ := .reload spec
    rwa [← hsession, ← hdeliveries] at hgoes

theorem goes_iff (step : Step) :
    Goes number s.roster.troupe step ds t ↔
      (step.play number s).answer = none ∧ ds = (step.play number s).deliveries ∧
        t = (step.play number s).session.roster.troupe := by
  cases haction : step.action? number with
  | none =>
    cases step with
    | reload spec => exact goes_reload_iff hs spec
    | _ => simp [action?] at haction
  | some p =>
    obtain ⟨name, a⟩ := p
    obtain ⟨hanswer, hdeliveries, htroupe⟩ := hs.invoke_eq_turn name a
    have hjudge : (step.play number s).answer = none ↔
        step.Expects (s.roster.troupe.turn name a).reply := by
      rw [play_eq haction, Effect.map, hanswer]
      exact judge_eq_none_iff haction (s.roster.troupe.suits_turn name a) _
    rw [hjudge, play_eq haction]
    constructor
    · rintro (_ | ⟨haction', hexpects⟩)
      · cases haction
      · cases haction.symm.trans haction'
        exact ⟨hexpects, hdeliveries.symm, htroupe.symm⟩
    · rintro ⟨hexpects, rfl, rfl⟩
      have hgoes := Goes.acts haction hexpects
      rwa [← hdeliveries, ← htroupe] at hgoes

/-- **The steps go as they are meant to** exactly if playing them meets no mishap. -/
theorem goAll_iff (steps : List Step) :
    GoAll number s.roster.troupe steps ds t ↔
      (playAll number s steps).answer = none ∧ ds = (playAll number s steps).deliveries ∧
        t = (playAll number s steps).session.roster.troupe := by
  induction steps generalizing s number ds with
  | nil =>
    constructor
    · rintro ⟨⟩
      exact ⟨rfl, rfl, rfl⟩
    · rintro ⟨-, rfl, rfl⟩
      exact .nil _ _
  | cons step steps ih =>
    obtain ⟨o, ho⟩ := step.exists_operation number s
    have hnext : (step.play number s).session.Sound := ho ▸ hs.step o
    rw [playAll]
    cases hanswer : (step.play number s).answer with
    | some m =>
      refine iff_of_false ?_ ?_
      · rintro (_ | ⟨hgoes, -⟩)
        cases hanswer.symm.trans ((goes_iff hs step).mp hgoes).1
      · rintro ⟨hnone, -⟩
        cases hnone
    | none =>
      constructor
      · rintro (_ | ⟨hgoes, hrest⟩)
        obtain ⟨-, rfl, rfl⟩ := (goes_iff hs step).mp hgoes
        obtain ⟨hnone, rfl, rfl⟩ := (ih hnext).mp hrest
        exact ⟨hnone, rfl, rfl⟩
      · rintro ⟨hnone, rfl, rfl⟩
        exact .cons ((goes_iff hs step).mpr ⟨hanswer, rfl, rfl⟩)
          ((ih hnext).mpr ⟨hnone, rfl, rfl⟩)

end Playing

/-- Playing steps is a run of the session. -/
theorem exists_run (number : Nat) (steps : List Step) (s : Session String) :
    ∃ os, (playAll number s steps).session = s.after os := by
  induction steps generalizing number s with
  | nil => exact ⟨[], rfl⟩
  | cons step steps ih =>
    obtain ⟨o, ho⟩ := step.exists_operation number s
    rw [playAll]
    cases (step.play number s).answer with
    | some m => exact ⟨[o], ho⟩
    | none =>
      obtain ⟨os, hos⟩ := ih (number + 1) (step.play number s).session
      refine ⟨o :: os, ?_⟩
      rw [Session.after_cons, ← ho]
      exact hos

end Step

namespace Scenario

/-! ## What a scenario opens and closes with -/

theorem definePredicates_registers (s : Session String) (specs : List String) :
    Session.Registers s (specs.map .predicate) (definePredicates s specs) := by
  induction specs generalizing s with
  | nil => exact Session.quiet_registers s ()
  | cons spec specs ih =>
    rw [definePredicates]
    exact (Session.install_registers s (.predicate spec)).andThen ih

/-- The delivery is the expected one. -/
def Delivered (expected got : String × Value) : Prop :=
  got.1 = expected.1 ∧ got.2.Same expected.2

variable (t : Scenario) (body : String)

/-- **The protocol does what the scenario says.**  In the troupe that the scenario makes up
all the steps go as they are meant to, and at the end there are as many blocks and there
have been the deliveries that it expects. -/
def Fulfilled : Prop :=
  ∃ ds troupe, Step.GoAll 1 (t.troupe body) t.steps ds troupe ∧
    (∀ n, t.expectBlocks = some n → troupe.blocks = n) ∧
    ∀ es, t.expectDeliveries = some es → List.Forall₂ Delivered es ds

theorem prepare_registers :
    Session.Registers (.start t.settings .empty) (t.definitions body) (t.prepare body) :=
  (Session.reloadAll_registers _ _).andThen fun s => definePredicates_registers s _

/-- Preparing a scenario is a run of its session. -/
theorem exists_run_prepare :
    ∃ os, (t.prepare body).session = (Session.start t.settings .empty).after os := by
  have hreload : ∀ (specs : List String) (s : Session String),
      (s.reloadAll specs).session = s.after (specs.map .reload) := by
    intro specs
    induction specs with
    | nil => exact fun _ => rfl
    | cons spec specs ih => exact fun s => ih (s.reload spec).session
  have hpredicate : ∀ (specs : List String) (s : Session String),
      (definePredicates s specs).session = s.after (specs.map .definePredicate) := by
    intro specs
    induction specs with
    | nil => exact fun _ => rfl
    | cons spec specs ih => exact fun s => ih (s.definePredicate spec).session
  refine ⟨(specifierLines body).map .reload ++ t.predicates.map .definePredicate, ?_⟩
  rw [Session.after_append, ← hreload, ← hpredicate]
  rfl

theorem blocksFailure?_eq_none_iff (got : Nat) :
    t.blocksFailure? got = none ↔ ∀ n, t.expectBlocks = some n → got = n := by
  rw [blocksFailure?]
  cases t.expectBlocks with
  | none => simp
  | some n => by_cases h : got = n <;> simp [h]

theorem firstMismatch?_eq_none_iff (index : Nat) {es gs : List (String × Value)}
    (hlength : gs.length = es.length) :
    firstMismatch? index es gs = none ↔ List.Forall₂ Delivered es gs := by
  induction es generalizing index gs with
  | nil =>
    obtain rfl := List.length_eq_zero_iff.mp hlength
    exact iff_of_true rfl .nil
  | cons e es ih =>
    cases gs with
    | nil => cases hlength
    | cons g gs =>
      rw [List.forall₂_cons, ← ih (index + 1) (Nat.succ.inj hlength), firstMismatch?]
      have hsame : (e.1 = g.1 && g.2 == e.2) = true ↔ Delivered e g := by
        rw [Bool.and_eq_true, decide_eq_true_eq, Value.beq_iff, Delivered, eq_comm (a := g.1)]
      by_cases hgot : Delivered e g
      · rw [if_pos (hsame.mpr hgot), and_iff_right hgot]
      · rw [if_neg (hsame.not.mpr hgot)]
        exact iff_of_false (Option.some_ne_none _) fun h => hgot h.1

theorem deliveriesFailure?_eq_none_iff (got : List (String × Value)) :
    t.deliveriesFailure? got = none ↔
      ∀ es, t.expectDeliveries = some es → List.Forall₂ Delivered es got := by
  rw [deliveriesFailure?]
  cases t.expectDeliveries with
  | none => simp
  | some es =>
    by_cases hlength : got.length = es.length
    · simp [hlength, firstMismatch?_eq_none_iff]
    · have hnot : ¬ List.Forall₂ Delivered es got :=
        fun h => hlength h.length_eq.symm
      simp [hlength, hnot]

/-- A session that shows its table shows the blocks of its troupe. -/
theorem length_rows {s : Session String} (hs : s.Sound) {n : Nat} (h : s.ShowsTable n) :
    s.palette.rows.length = s.roster.troupe.blocks := by
  rw [h, hs.coherent.rows, List.length_cons, List.length_flatMap, Roster.definitions,
    List.map_map, Nat.add_comm, Troupe.blocks]
  simp only [Function.comp_def, Definition.length_rows]
  rfl

theorem answer_play_eq_none_iff : (t.play body).answer = none ↔ t.Fulfilled body := by
  obtain ⟨hroster, -, hdeliveries, -⟩ := t.prepare_registers body
  obtain ⟨os, hos⟩ := t.exists_run_prepare body
  obtain ⟨os', hos'⟩ := Step.exists_run 1 t.steps (t.prepare body).session
  have hstart := Session.start_sound (κ := String) t.settings .empty
  have hs : (t.prepare body).session.Sound := hos ▸ hstart.after os
  have hshows : (t.prepare body).session.ShowsTable 1 :=
    hos ▸ hstart.showsTable_after (Session.start_showsTable t.settings .empty) os
  have htroupe : (t.prepare body).session.roster.troupe = t.troupe body := by
    rw [hroster, Roster.troupe_registerAll]
    rfl
  -- what is told at the end is told of the session that the steps leave
  have hlength : (Step.playAll 1 (t.prepare body).session t.steps).session.palette.rows.length =
      (Step.playAll 1 (t.prepare body).session t.steps).session.roster.troupe.blocks := by
    rw [hos']
    exact length_rows (hs.after os') (hs.showsTable_after hshows os')
  have hanswer : (t.play body).answer = none ↔
      (Step.playAll 1 (t.prepare body).session t.steps).answer = none ∧
        t.blocksFailure?
          (Step.playAll 1 (t.prepare body).session t.steps).session.palette.rows.length = none ∧
        t.deliveriesFailure?
          (Step.playAll 1 (t.prepare body).session t.steps).deliveries = none := by
    have hplayed : ((t.prepare body).andThen fun s => Step.playAll 1 s t.steps).deliveries =
        (Step.playAll 1 (t.prepare body).session t.steps).deliveries := by
      rw [Effect.andThen, hdeliveries]
      rfl
    rw [play, Effect.map, Option.orElse_eq_none, Option.orElse_eq_none, hplayed]
    rfl
  rw [hanswer, hlength, blocksFailure?_eq_none_iff, deliveriesFailure?_eq_none_iff, Fulfilled,
    ← htroupe]
  constructor
  · rintro ⟨hnone, hblocks, hdelivered⟩
    exact ⟨_, _, (Step.goAll_iff hs t.steps).mpr ⟨hnone, rfl, rfl⟩, hblocks, hdelivered⟩
  · rintro ⟨ds, troupe, hgoes, hblocks, hdelivered⟩
    obtain ⟨hnone, rfl, rfl⟩ := (Step.goAll_iff hs t.steps).mp hgoes
    exact ⟨hnone, hblocks, hdelivered⟩

/-- **A scenario passes if the protocol does what it says**, and only then; so does the file
that it is read from. -/
theorem passes_iff_fulfilled :
    ((t.play body).answer = none ↔ t.Fulfilled body) ∧
      ∀ text, Scenario.ofText text = .ok (t, body) →
        ((Verdict.ofFile (.ok text)).passed = true ↔ t.Fulfilled body) := by
  refine ⟨t.answer_play_eq_none_iff body, ?_⟩
  intro text htext
  rw [← t.answer_play_eq_none_iff body, Verdict.passed, Verdict.ofFile, htext,
    Option.isNone_iff_eq_none]

theorem passes_iff_fulfilled_queued :
    Scenario.Fulfilled
        ⟨none, .queue, some 1, ["p"],
          [.call "f [x]" [.text "a"] none none, .call "f [x]" [.text "b"] none none,
            .call "f [x]" [.text "c"] none (some "queued"), .poll "f [x]" true,
            .read "f [x]" 0 (.text "a"), .answer "f [x]" (.text "v"),
            .read "f [x]" 0 (.text "b"), .reload "g", .answer "p" (.boolean true)],
          some 11, some [("step1", .text "v")]⟩ "f [x]" ∧
      Scenario.ofText "---\n---\nf" = .ok (⟨none, .supersede, none, [], [], none, none⟩, "\nf") ∧
      (Verdict.ofFile (.ok "---\n---\nf")).passed = true := by
  have hfile : Scenario.ofText "---\n---\nf" =
      .ok (⟨none, .supersede, none, [], [], none, none⟩, "\nf") := rfl
  refine ⟨(passes_iff_fulfilled _ _).1.mp ?_, hfile, ?_⟩
  · exact Option.isNone_iff_eq_none.mp (by decide +kernel)
  · refine ((passes_iff_fulfilled _ _).2 _ hfile).mpr ?_
    exact ⟨[], _, .nil _ _, nofun, nofun⟩

/-- A call that is expected to be refused for the want of a reporter needs none. -/
theorem passes_with_nobody_called :
    (Scenario.play ⟨none, .supersede, none, [], [.call "f" [] none (some "unknown handler")],
        none, none⟩ "").answer = none ∧
      (Scenario.troupe ⟨none, .supersede, none, [],
        [.call "f" [] none (some "unknown handler")], none, none⟩ "").named?
          (Step.nameOf "f") = none :=
  ⟨Option.isNone_iff_eq_none.mp (by decide +kernel), rfl⟩

end Scenario
end ReporterBlocks
