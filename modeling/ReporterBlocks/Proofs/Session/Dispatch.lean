import ReporterBlocks.Proofs.Reporter.Step
import ReporterBlocks.Proofs.Roster.Table
import ReporterBlocks.Session.Basic

/-! # What running a block does

The block of a handler asks a reporter for an action (`Handler.request?`), and what the
block answers is what the reporter replies (`Reply.outcome?`).  If the reporter is
there and tells an outcome, that is all that running the block does
(`invoke_of_request`); a block that asks for nothing is refused, and nothing changes
(`invoke_of_no_request`).
-/

namespace ReporterBlocks
variable {κ : Type}

/-- What running a block answers where the reporter gives this reply. -/
def Reply.outcome? : Reply → Option (Except Fault Outcome)
  | .accepted => some (.ok .pending)
  | .refused f => some (.error f)
  | .polled armed => some (.ok (.triggered armed))
  | .value v => v.map fun v => .ok (.value v)
  | .answered => some (.ok .done)

/-- The action that a block performs, and on which reporter.  A call needs a caller
and an answer has one value; without them the dispatcher fails. -/
def Handler.request? (args : List Value) (caller : Option κ) : Handler → Option (Nat × Action κ)
  | .reload => none
  | .poll id => some (id, .poll)
  | .call id => caller.map fun k => (id, .call ⟨args, k⟩)
  | .answer id =>
    match args with
    | [v] => some (id, .answer v)
    | _ => none
  | .read id index => some (id, .read index)

/-- An answer has one value. -/
theorem Handler.eq_of_request?_answer {args : List Value} {caller : Option κ} {id i : Nat}
    {a : Action κ} (hreq : (Handler.answer id).request? args caller = some (i, a)) :
    ∃ v, args = [v] ∧ i = id ∧ a = .answer v := by
  rcases args with _ | ⟨v, _ | ⟨w, vs⟩⟩
  · cases hreq
  · cases hreq
    exact ⟨v, rfl, rfl, rfl⟩
  · cases hreq

theorem Handler.reporter?_of_request? {h : Handler} {args : List Value} {caller : Option κ}
    {id : Nat} {a : Action κ} (hreq : h.request? args caller = some (id, a)) :
    h.reporter? = some id := by
  cases h with
  | reload => cases hreq
  | poll | read =>
    cases hreq
    rfl
  | call =>
    obtain ⟨k, -, hk⟩ := Option.map_eq_some_iff.mp hreq
    cases hk
    rfl
  | answer =>
    obtain ⟨v, -, rfl, -⟩ := eq_of_request?_answer hreq
    rfl

/-- A read is asked for only by the handler that reads. -/
theorem Handler.eq_read_of_request? {h : Handler} {args : List Value} {caller : Option κ}
    {id index : Nat} (hreq : h.request? args caller = some (id, .read index)) :
    h = .read id index := by
  cases h with
  | reload | poll => cases hreq
  | read =>
    cases hreq
    rfl
  | call =>
    obtain ⟨k, -, hk⟩ := Option.map_eq_some_iff.mp hreq
    cases hk
  | answer =>
    obtain ⟨v, -, -, hread⟩ := eq_of_request?_answer hreq
    cases hread

/-- A call is asked for only by the handler that calls, for the caller that it is given. -/
theorem Handler.eq_call_of_request? {h : Handler} {args : List Value} {caller : Option κ}
    {id : Nat} {c : Call κ} (hreq : h.request? args caller = some (id, .call c)) :
    h = .call id ∧ caller = some c.caller := by
  cases h with
  | reload | poll | read => cases hreq
  | call =>
    obtain ⟨k, rfl, hk⟩ := Option.map_eq_some_iff.mp hreq
    cases hk
    exact ⟨rfl, rfl⟩
  | answer =>
    obtain ⟨v, -, -, hcall⟩ := eq_of_request?_answer hreq
    cases hcall

/-- A reporter tells an outcome of every action but a read out of bounds. -/
theorem Reporter.exists_outcome (r : Reporter κ) (a : Action κ)
    (hread : ∀ index, a = .read index → index < r.cells.length) :
    ∃ outcome, (r.step a).1.reply.outcome? = some outcome := by
  have hway := r.step_way a
  generalize r.step a = t at hway ⊢
  obtain ⟨⟨p, ds, lines⟩, r'⟩ := t
  change Way r a p ds r' at hway
  cases hway with
  | read index =>
    have hindex := hread index rfl
    exact ⟨.ok (.value r.cells[index].value), by simp [Reply.outcome?, read, hindex]⟩
  | _ => exact ⟨_, rfl⟩

/-- The faults that a reporter tells are those of a call. -/
theorem Reporter.fault_of_outcome (r : Reporter κ) (a : Action κ) {f : Fault}
    (houtcome : (r.step a).1.reply.outcome? = some (.error f)) :
    (∃ got, f = .argumentCount r.definition.displayName r.cells.length got) ∨
      f = .queueFull r.definition.displayName r.queueLimit := by
  have hway := r.step_way a
  generalize r.step a = t at hway houtcome
  obtain ⟨⟨p, ds, lines⟩, r'⟩ := t
  change Way r a p ds r' at hway
  cases hway with
  | misfit c =>
    cases houtcome
    exact Or.inl ⟨c.args.length, rfl⟩
  | full =>
    cases houtcome
    exact Or.inr rfl
  | read index =>
    obtain ⟨v, -, hv⟩ := Option.map_eq_some_iff.mp houtcome
    cases hv
  | _ => cases houtcome

/-- Only a call is refused, and then the reporter stays as it is. -/
theorem Reporter.unchanged_of_outcome (r : Reporter κ) (a : Action κ) {f : Fault}
    (houtcome : (r.step a).1.reply.outcome? = some (.error f)) :
    (r.step a).2 = r ∧ (r.step a).1.deliveries = [] := by
  have hway := r.step_way a
  generalize r.step a = t at hway houtcome ⊢
  obtain ⟨⟨p, ds, lines⟩, r'⟩ := t
  change Way r a p ds r' at hway
  cases hway with
  | misfit | full => exact ⟨rfl, rfl⟩
  | read index =>
    obtain ⟨v, -, hv⟩ := Option.map_eq_some_iff.mp houtcome
    cases hv
  | _ => cases houtcome

/-- Only a call is answered later. -/
theorem Reporter.exists_call_of_pending (r : Reporter κ) (a : Action κ)
    (houtcome : (r.step a).1.reply.outcome? = some (.ok .pending)) : ∃ c, a = .call c := by
  have hway := r.step_way a
  generalize r.step a = t at hway houtcome
  obtain ⟨⟨p, ds, lines⟩, r'⟩ := t
  change Way r a p ds r' at hway
  cases hway with
  | queued c | superseding c | taken c => exact ⟨c, rfl⟩
  | read index =>
    obtain ⟨v, -, hv⟩ := Option.map_eq_some_iff.mp houtcome
    cases hv
  | _ => cases houtcome

namespace Session

theorem put_self {s : Session κ} {id : Nat} {r : Reporter κ}
    (hr : s.roster.reporters[id]? = some r) : s.put id r = s := by
  obtain ⟨hid, rfl⟩ := List.getElem?_eq_some_iff.mp hr
  simp [put, Roster.put]

section Blocks
variable {s : Session κ} {handler : String} {args : List Value} {caller : Option κ} {h : Handler}

/-- **A block that acts on a reporter** does what the reporter does. -/
theorem invoke_of_request {id : Nat} {a : Action κ} {r : Reporter κ}
    {outcome : Except Fault Outcome} (hh : s.roster.handler? handler = some h)
    (hreq : h.request? args caller = some (id, a)) (hr : s.roster.reporters[id]? = some r)
    (houtcome : (r.step a).1.reply.outcome? = some outcome) :
    s.invoke handler args caller =
      ⟨s.put id (r.step a).2, outcome, (r.step a).1.deliveries, (r.step a).1.lines⟩ := by
  cases h with
  | reload => cases hreq
  | poll id =>
    cases hreq
    cases houtcome
    simp [invoke, hh, onReporter, hr, Reporter.step]
  | call id =>
    cases caller with
    | none => cases hreq
    | some k =>
      cases hreq
      cases hcall : r.call ⟨args, k⟩ with
      | ok r' =>
        rw [Reporter.step, hcall] at houtcome ⊢
        cases houtcome
        simp [invoke, hh, onReporter, hr, hcall]
      | error f =>
        -- the session does not put the reporter back, which is what it was
        rw [Reporter.step, hcall] at houtcome ⊢
        cases houtcome
        simp [invoke, hh, onReporter, hr, hcall, put_self hr]
  | answer id =>
    obtain ⟨v, rfl, rfl, rfl⟩ := Handler.eq_of_request?_answer hreq
    cases houtcome
    simp [invoke, hh, onReporter, hr, Reporter.step]
  | read id index =>
    cases hreq
    rw [Reporter.step, Reply.outcome?] at houtcome
    obtain ⟨v, hv, rfl⟩ := Option.map_eq_some_iff.mp houtcome
    simp [invoke, hh, onReporter, hr, hv, Reporter.step, put_self hr, quiet]

/-- **A block that cannot be run** is refused by the dispatcher. -/
theorem invoke_of_no_request (hh : s.roster.handler? handler = some h)
    (hreload : h ≠ .reload) (hreq : h.request? args caller = none) :
    ∃ f, (f = .missingCompletion handler ∨ f = .argumentCount handler 1 args.length) ∧
      s.invoke handler args caller = s.refuse f := by
  cases h with
  | reload => exact absurd rfl hreload
  | poll id => cases hreq
  | call id =>
    cases caller with
    | none => exact ⟨.missingCompletion handler, Or.inl rfl, by simp only [invoke, hh]⟩
    | some k => cases hreq
  | answer id =>
    rcases args with _ | ⟨v, _ | ⟨w, vs⟩⟩
    · exact ⟨_, Or.inr rfl, by simp only [invoke, hh]⟩
    · cases hreq
    · exact ⟨_, Or.inr rfl, by simp only [invoke, hh]⟩
  | read id index => cases hreq

end Blocks

end Session
end ReporterBlocks
