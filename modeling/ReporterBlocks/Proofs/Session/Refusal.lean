import ReporterBlocks.Proofs.Session.Isolation
import ReporterBlocks.Proofs.Session.Waiting

/-! # When a block is refused

`Refusal` lists the faults that running a block can meet, each with everything that
holds when it does: what the handler's name stands for in the table of blocks, what is
wrong with the arguments or the caller, and what the reporter is busy with.  In a
session that has been run from its start the block answers with a fault exactly if it
is listed (`Sound.invoke_error_iff`), and then nothing else has happened
(`Sound.invoke_error_unchanged`).

`refusals_exact` puts this together with what becomes of the caller: one whose call is
refused, or who is handed to a block that calls no reporter, is never answered.
-/

namespace ReporterBlocks
variable {κ : Type}

/-- **The faults of a call**: its arguments are not as many as the parameters, or a
caller waits and the queue holds as many calls as it may. -/
theorem Reporter.WellFormed.call_eq_error_iff {r : Reporter κ} (hr : r.WellFormed) (c : Call κ)
    (f : Fault) : r.call c = .error f ↔
      (c.args.length ≠ r.definition.arity ∧
        f = .argumentCount r.definition.displayName r.definition.arity c.args.length) ∨
      (c.args.length = r.definition.arity ∧ r.overlap = .queue ∧ r.isPending = true ∧
        r.queued = r.queueLimit ∧ f = .queueFull r.definition.displayName r.queueLimit) := by
  have hwithin := hr.within
  rw [call, hr.length_cells]
  by_cases hargs : c.args.length = r.definition.arity
  · cases hpending : r.isPending with
    | false => simp [hargs]
    | true =>
      cases hpolicy : r.overlap with
      | supersede => simp [hargs]
      | queue =>
        by_cases hfull : r.queueLimit ≤ r.queued
        · have hexact : r.queued = r.queueLimit := Nat.le_antisymm hwithin hfull
          simpa [hargs, hexact] using eq_comm
        · have hroom : r.queued ≠ r.queueLimit := fun h => hfull h.ge
          simp [hargs, hfull, hroom]
  · simpa [hargs] using eq_comm

namespace Session

/-! ## The faults -/

/-- The handler is that of the block that calls `r`. -/
def Calls (s : Session κ) (handler : String) (r : Reporter κ) : Prop :=
  r ∈ s.roster.reporters ∧ handler = HandlerName.call r.definition.name

/-- The handler is that of a block that takes one value: the one that defines a
reporter, or one that hands a reporter's value back. -/
def TakesOne (s : Session κ) (handler : String) : Prop :=
  handler = HandlerName.reload ∨
    ∃ r ∈ s.roster.reporters, handler = HandlerName.answer r.definition.name

/-- **The faults that running a block can meet**, in the order in which they count: a
name that is not in the table is that of no block, a call with nobody to answer is
refused whatever its arguments are, and the queue counts only for a call whose arguments
are as many as the parameters. -/
inductive Refusal (s : Session κ) (handler : String) (args : List Value) :
    Option κ → Fault → Prop
  /-- No row of the table has the handler. -/
  | unknown (caller : Option κ) (hname : handler ∉ s.roster.rows.map Row.handler) :
      Refusal s handler args caller (.unknownHandler handler)
  /-- There is nobody to answer. -/
  | callerless (r : Reporter κ) (hr : s.Calls handler r) :
      Refusal s handler args none (.missingCompletion handler)
  /-- The block takes one value and is given none or several. -/
  | notOne (caller : Option κ) (hname : s.TakesOne handler) (hargs : args.length ≠ 1) :
      Refusal s handler args caller (.argumentCount handler 1 args.length)
  /-- The call has too few or too many arguments. -/
  | misfit (k : κ) (r : Reporter κ) (hr : s.Calls handler r)
      (hargs : args.length ≠ r.definition.arity) :
      Refusal s handler args (some k)
        (.argumentCount r.definition.displayName r.definition.arity args.length)
  /-- A caller waits, and as many calls as the settings allow wait behind it. -/
  | full (k : κ) (r : Reporter κ) (hr : s.Calls handler r)
      (hargs : args.length = r.definition.arity) (hpolicy : s.settings.overlap = .queue)
      (hpending : r.isPending = true) (hfull : r.queued = s.settings.queueLimit) :
      Refusal s handler args (some k)
        (.queueFull r.definition.displayName s.settings.queueLimit)

section Blocks
variable {s : Session κ} {handler : String} {args : List Value} {caller : Option κ} {f : Fault}

theorem invoke_error_iff_of_call {id : Nat} {r : Reporter κ} {k : κ}
    (hh : s.roster.handler? handler = some (.call id))
    (hr : s.roster.reporters[id]? = some r) :
    (s.invoke handler args (some k)).answer = .error f ↔ r.call ⟨args, k⟩ = .error f := by
  simp only [invoke, hh, onReporter, hr]
  cases r.call ⟨args, k⟩ <;> simp

/-- Blocks other than calls do not look at the caller. -/
theorem invoke_eq_of_no_call (hh : ∀ id, s.roster.handler? handler ≠ some (.call id)) :
    s.invoke handler args caller = s.invoke handler args none := by
  cases h : s.roster.handler? handler with
  | none => simp only [invoke, h]
  | some b =>
    cases b with
    | call id => exact absurd h (hh id)
    | _ => simp only [invoke, h]

variable (hs : s.Sound)
include hs

theorem Sound.invoke_error_iff_of_one {h : Handler} (hh : s.roster.handler? handler = some h)
    (hone : h = .reload ∨ ∃ id, h = .answer id) :
    (s.invoke handler args caller).answer = .error f ↔
      args.length ≠ 1 ∧ f = .argumentCount handler 1 args.length := by
  by_cases hargs : args.length = 1
  · -- the one value is taken
    obtain ⟨v, rfl⟩ := List.length_eq_one_iff.mp hargs
    rcases hone with rfl | ⟨id, rfl⟩
    · simp [invoke, hh, Effect.map]
    · obtain ⟨r, hr⟩ := hs.coherent.exists_reporter hh rfl
      simp [invoke, hh, onReporter, hr]
  · have hrefused : s.invoke handler args caller =
        s.refuse (.argumentCount handler 1 args.length) := by
      rcases args with _ | ⟨v, _ | ⟨w, vs⟩⟩
      · rcases hone with rfl | ⟨id, rfl⟩ <;> simp only [invoke, hh]
      · exact absurd rfl hargs
      · rcases hone with rfl | ⟨id, rfl⟩ <;> simp only [invoke, hh]
    rw [hrefused]
    simpa [refuse, quiet, hargs] using eq_comm

/-- Polls and reads are never refused. -/
theorem Sound.invoke_ne_error {h : Handler} (hh : s.roster.handler? handler = some h)
    (hobserves : (∃ id, h = .poll id) ∨ ∃ id index, h = .read id index) :
    (s.invoke handler args caller).answer ≠ .error f := by
  intro hf
  have hdispatch := hs.dispatch handler args caller
  generalize s.invoke handler args caller = e at hdispatch hf
  cases hdispatch with
  | unknown hh' => cases hh.symm.trans hh'
  | reload => cases hf
  | refused h' _ hh' hreq =>
    cases hh.symm.trans hh'
    rcases hobserves with ⟨id, rfl⟩ | ⟨id, index, rfl⟩ <;> cases hreq
  | acts h' id a r outcome hh' hreq _ houtcome =>
    cases hh.symm.trans hh'
    cases hf
    rcases hobserves with ⟨id, rfl⟩ | ⟨id, index, rfl⟩
    · cases hreq
      cases houtcome
    · cases hreq
      obtain ⟨v, -, hv⟩ := Option.map_eq_some_iff.mp houtcome
      cases hv

/-- **A block that is refused changes nothing.** -/
theorem Sound.invoke_error_unchanged (hf : (s.invoke handler args caller).answer = .error f) :
    (s.invoke handler args caller).session = s ∧
      (s.invoke handler args caller).deliveries = [] := by
  have hdispatch := hs.dispatch handler args caller
  generalize s.invoke handler args caller = e at hdispatch hf ⊢
  cases hdispatch with
  | unknown | refused => exact ⟨rfl, rfl⟩
  | reload => cases hf
  | acts h id a r outcome hh hreq hr houtcome =>
    cases hf
    obtain ⟨hsame, hsilent⟩ := r.unchanged_of_outcome a houtcome
    exact ⟨by rw [hsame, put_self hr], hsilent⟩

theorem Sound.exists_callee {id : Nat} (hh : s.roster.handler? handler = some (.call id)) :
    ∃ r, s.roster.reporters[id]? = some r ∧ s.Calls handler r := by
  obtain ⟨r, hr, hname⟩ := (hs.coherent.handler?_eq_call_iff handler id).mp hh
  exact ⟨r, hr, List.mem_of_getElem? hr, hname⟩

/-- Only a call is answered later. -/
theorem Sound.exists_callee_of_pending
    (hpending : (s.invoke handler args caller).answer = .ok .pending) :
    ∃ r, s.Calls handler r := by
  have hdispatch := hs.dispatch handler args caller
  generalize s.invoke handler args caller = e at hdispatch hpending
  cases hdispatch with
  | unknown | reload | refused => cases hpending
  | acts h id a r outcome hh hreq _ houtcome =>
    cases hpending
    obtain ⟨c, rfl⟩ := r.exists_call_of_pending a houtcome
    obtain ⟨rfl, -⟩ := Handler.eq_call_of_request? hreq
    obtain ⟨r', -, hr'⟩ := hs.exists_callee hh
    exact ⟨r', hr'⟩

theorem Sound.exists_handler {r : Reporter κ} (hr : s.Calls handler r) :
    ∃ id, s.roster.handler? handler = some (.call id) ∧ s.roster.reporters[id]? = some r := by
  obtain ⟨id, hid⟩ := List.mem_iff_getElem?.mp hr.1
  exact ⟨id, (hs.coherent.handler?_eq_call_iff handler id).mpr ⟨r, hid, hr.2⟩, hid⟩

/-- **A block answers with a fault exactly if it is listed.** -/
theorem Sound.invoke_error_iff
    (hpolicy : ∀ r ∈ s.roster.reporters,
      r.overlap = s.settings.overlap ∧ r.queueLimit = s.settings.queueLimit) :
    (s.invoke handler args caller).answer = .error f ↔ Refusal s handler args caller f := by
  constructor
  · intro hf
    cases hh : s.roster.handler? handler with
    | none =>
      simp only [invoke, hh] at hf
      cases hf
      exact .unknown caller ((hs.coherent.handler?_eq_none_iff handler).mp hh)
    | some h =>
      cases h with
      | reload =>
        obtain ⟨hargs, rfl⟩ := (hs.invoke_error_iff_of_one hh (Or.inl rfl)).mp hf
        exact .notOne caller (Or.inl ((hs.coherent.handler?_eq_reload_iff handler).mp hh)) hargs
      | poll id => exact absurd hf (hs.invoke_ne_error hh (Or.inl ⟨id, rfl⟩))
      | call id =>
        obtain ⟨r, hr, hcalls⟩ := hs.exists_callee hh
        cases caller with
        | none =>
          simp only [invoke, hh] at hf
          cases hf
          exact .callerless r hcalls
        | some k =>
          have hcall := (invoke_error_iff_of_call hh hr).mp hf
          obtain ⟨hoverlap, hlimit⟩ := hpolicy r hcalls.1
          rcases ((hs.wellFormed r hcalls.1).call_eq_error_iff _ f).mp hcall with
            ⟨hargs, rfl⟩ | ⟨hargs, hqueue, hpending, hfull, rfl⟩
          · exact .misfit k r hcalls hargs
          · rw [hlimit] at hfull ⊢
            exact .full k r hcalls hargs (hoverlap ▸ hqueue) hpending hfull
      | answer id =>
        obtain ⟨hargs, rfl⟩ := (hs.invoke_error_iff_of_one hh (Or.inr ⟨id, rfl⟩)).mp hf
        obtain ⟨r, hr, hname⟩ := (hs.coherent.handler?_eq_answer_iff handler id).mp hh
        exact .notOne caller (Or.inr ⟨r, List.mem_of_getElem? hr, hname⟩) hargs
      | read id index => exact absurd hf (hs.invoke_ne_error hh (Or.inr ⟨id, index, rfl⟩))
  · intro hf
    cases hf with
    | unknown _ hname =>
      have hh := (hs.coherent.handler?_eq_none_iff handler).mpr hname
      simp only [invoke, hh]
      rfl
    | callerless r hr =>
      obtain ⟨id, hh, -⟩ := hs.exists_handler hr
      simp only [invoke, hh]
      rfl
    | notOne _ hname hargs =>
      rcases hname with hname | ⟨r, hr, hname⟩
      · have hh := (hs.coherent.handler?_eq_reload_iff handler).mpr hname
        exact (hs.invoke_error_iff_of_one hh (Or.inl rfl)).mpr ⟨hargs, rfl⟩
      · obtain ⟨id, hid⟩ := List.mem_iff_getElem?.mp hr
        have hh := (hs.coherent.handler?_eq_answer_iff handler id).mpr ⟨r, hid, hname⟩
        exact (hs.invoke_error_iff_of_one hh (Or.inr ⟨id, rfl⟩)).mpr ⟨hargs, rfl⟩
    | misfit k r hr hargs =>
      obtain ⟨id, hh, hid⟩ := hs.exists_handler hr
      refine (invoke_error_iff_of_call hh hid).mpr ?_
      exact ((hs.wellFormed r hr.1).call_eq_error_iff _ _).mpr (Or.inl ⟨hargs, rfl⟩)
    | full k r hr hargs hqueue hpending hfull =>
      obtain ⟨id, hh, hid⟩ := hs.exists_handler hr
      obtain ⟨hoverlap, hlimit⟩ := hpolicy r hr.1
      refine (invoke_error_iff_of_call hh hid).mpr ?_
      refine ((hs.wellFormed r hr.1).call_eq_error_iff _ _).mpr (Or.inr ?_)
      exact ⟨hargs, hoverlap ▸ hqueue, hpending, hlimit ▸ hfull, by rw [hlimit]⟩

end Blocks

/-- The reporters of a session have the policy and the limit of its settings. -/
theorem policy_after_start (settings : Settings) (palette : Palette) (os : List (Operation κ))
    {r : Reporter κ} (hr : r ∈ ((start settings palette).after os).roster.reporters) :
    r.overlap = settings.overlap ∧ r.queueLimit = settings.queueLimit := by
  obtain ⟨i, hi⟩ := List.mem_iff_getElem?.mp hr
  have hempty : (start settings palette : Session κ).roster.reporters[i]? = none :=
    List.getElem?_nil
  obtain ⟨halone, -⟩ := (start_sound settings palette).starts hempty os hi
  exact ⟨(congrArg Reporter.overlap halone).trans (Reporter.after_overlap _ _),
    (congrArg Reporter.queueLimit halone).trans (Reporter.after_queueLimit _ _)⟩

/-- A caller that one operation alone is handed, and who is not admitted there, is
never answered. -/
theorem not_delivered_of_not_admitted (settings : Settings) (palette : Palette)
    (os os' : List (Operation κ)) (o : Operation κ) (k : κ)
    (hadmitted : Moment.admitted? ⟨(start settings palette).after os, o,
      ((start settings palette).after os).step o⟩ ≠ some k)
    (honly : ∀ o' ∈ os ++ os', o'.caller? ≠ some k) :
    k ∉ ((start settings palette).run (os ++ o :: os')).deliveries.map Prod.fst := by
  intro hk
  rcases (start_sound settings palette).mem_deliveries_run _ hk with hk | ⟨m, hm, hadmits⟩
  · cases hk
  · rw [history_append, List.mem_append, history_cons, List.mem_cons] at hm
    have hcaller := (Moment.admitted?_eq_some hadmits).2
    rcases hm with hm | rfl | hm
    · exact honly _ (List.mem_append_left _ (operation_mem_of_mem_history _ _ hm)) hcaller
    · exact hadmitted hadmits
    · exact honly _ (List.mem_append_right _ (operation_mem_of_mem_history _ _ hm)) hcaller

/-- **Refusals are exact and leave everything as it was.**  In every session that has
been run from its start, a block answers with a fault exactly if `Refusal` lists it, and
never with a read out of bounds; in all other cases it is run.  A block that is refused
changes nothing and answers nobody.  The caller handed to a block that calls no reporter
makes no difference; and neither such a caller nor one whose call is refused is answered,
however the session goes on, unless another operation is handed the same caller. -/
theorem refusals_exact (settings : Settings) (palette : Palette) (os : List (Operation κ))
    (handler : String) (args : List Value) (caller : Option κ) :
    let s : Session κ := (start settings palette).after os
    let e := s.invoke handler args caller
    (∀ f, e.answer = .error f ↔ Refusal s handler args caller f) ∧
    ((∃ outcome, e.answer = .ok outcome) ↔ ∀ f, ¬ Refusal s handler args caller f) ∧
    (∀ reporter index, e.answer ≠ .error (.parameterOutOfBounds reporter index)) ∧
    ((∃ f, e.answer = .error f) → e.session = s ∧ e.deliveries = []) ∧
    ((∀ r, ¬ s.Calls handler r) → e = s.invoke handler args none) ∧
    ∀ k os', caller = some k →
      ((∃ f, e.answer = .error f) ∨ ∀ r, ¬ s.Calls handler r) →
      (∀ o ∈ os ++ os', o.caller? ≠ some k) →
      k ∉ ((start settings palette).run
        (os ++ .invoke handler args caller :: os')).deliveries.map Prod.fst := by
  intro s e
  have hs : s.Sound := (start_sound settings palette).after os
  have hsettings : s.settings = settings := (start_sound settings palette).after_settings os
  have hexact : ∀ f, e.answer = .error f ↔ Refusal s handler args caller f := by
    refine fun f => hs.invoke_error_iff fun r hr => ?_
    rw [hsettings]
    exact policy_after_start settings palette os hr
  have hnocall (hcalls : ∀ r, ¬ s.Calls handler r) :
      ∀ id, s.roster.handler? handler ≠ some (.call id) := by
    intro id hh
    obtain ⟨r, -, hr⟩ := hs.exists_callee hh
    exact hcalls r hr
  refine ⟨hexact, ?_, ?_, ?_, fun hcalls => invoke_eq_of_no_call (hnocall hcalls), ?_⟩
  · constructor
    · rintro ⟨outcome, hok⟩ f hf
      cases hok.symm.trans ((hexact f).mpr hf)
    · intro hnone
      cases hanswer : e.answer with
      | ok outcome => exact ⟨outcome, rfl⟩
      | error f => exact absurd ((hexact f).mp hanswer) (hnone f)
  · intro reporter index hf
    cases (hexact _).mp hf
  · rintro ⟨f, hf⟩
    exact hs.invoke_error_unchanged hf
  · rintro k os' rfl hdropped honly
    refine not_delivered_of_not_admitted settings palette os os' _ k ?_ honly
    intro hadmitted
    have hpending : e.answer = .ok .pending :=
      Response.ran.inj (Moment.admitted?_eq_some hadmitted).1
    rcases hdropped with ⟨f, hf⟩ | hcalls
    · cases hpending.symm.trans hf
    · obtain ⟨r, hr⟩ := hs.exists_callee_of_pending hpending
      exact hcalls r hr

/-- The queue has no place, and the second caller is refused; it stays unanswered when
the first one is answered. -/
theorem refusals_exact_full :
    let os : List (Operation Nat) := [.reload "f", .invoke "callr_funcf" [] (some 1)]
    let os' : List (Operation Nat) := [.invoke "retr_funcf" [.text "yes"] none,
      .invoke "retr_funcf" [.text "no"] none]
    let s : Session Nat := (start ⟨"blocks", .queue, 0⟩ .empty).after os
    (∃ f, (s.invoke "callr_funcf" [] (some 2)).answer = .error f) ∧
      (s.invoke "callr_funcf" [] (some 2)).session = s ∧
      (∀ o ∈ os ++ os', o.caller? ≠ some 2) ∧
      2 ∉ ((start ⟨"blocks", .queue, 0⟩ .empty).run
        (os ++ .invoke "callr_funcf" [] (some 2) :: os')).deliveries.map Prod.fst := by
  intro os os' s
  have hrefused : (s.invoke "callr_funcf" [] (some 2)).answer.isOk = false := by
    decide +kernel
  have honly : ∀ o ∈ os ++ os', o.caller? ≠ some 2 := by decide
  obtain ⟨-, -, -, hunchanged, -, hnever⟩ :=
    refusals_exact ⟨"blocks", .queue, 0⟩ .empty os "callr_funcf" [] (some 2)
  cases hanswer : (s.invoke "callr_funcf" [] (some 2)).answer with
  | ok outcome =>
    rw [hanswer] at hrefused
    cases hrefused
  | error f =>
    have hfault : ∃ f', (.error f : Except Fault Outcome) = .error f' := ⟨f, rfl⟩
    rw [hanswer] at hunchanged hnever
    exact ⟨hfault, (hunchanged hfault).1, honly, hnever 2 os' rfl (Or.inl hfault) honly⟩

end Session
end ReporterBlocks
