import ReporterBlocks.Proofs.Session.Step

/-! # Blocks by the names of their reporters

Every action on a reporter has a block, whose handler is made of a word for the action and
the safe name of the reporter (`Action.form`).  A name is that of one reporter at most, so
running the block is performing the action on the reporter of that name
(`Sound.invoke_action`), and nothing but a refusal if nobody has the name or the parameter
that is asked for (`Sound.invoke_nobody`).
-/

namespace ReporterBlocks
variable {κ : Type}

namespace Action

/-- What the handler of the block that performs the action is made of. -/
def form (name : String) : Action κ → HandlerForm
  | call _ => .call name
  | poll => .poll name
  | read index => .read name index
  | answer _ => .answer name

/-- The handler of that block. -/
def handler (id : Nat) : Action κ → Handler
  | call _ => .call id
  | poll => .poll id
  | read index => .read id index
  | answer _ => .answer id

/-- The arguments that the block is run with. -/
def args : Action κ → List Value
  | call c => c.args
  | answer v => [v]
  | poll | read _ => []

/-- The caller that it is handed. -/
def caller? : Action κ → Option κ
  | call c => some c.caller
  | poll | read _ | answer _ => none

/-- The definition has a block for the action: there is none to read a parameter that it has
not. -/
def Fits (d : Definition) : Action κ → Prop
  | read index => index < d.arity
  | call _ | poll | answer _ => True

theorem request?_handler (a : Action κ) (id : Nat) :
    (a.handler id).request? a.args a.caller? = some (id, a) := by
  cases a <;> rfl

end Action

namespace Roster

/-- The block of an action that fits is bound. -/
theorem Bound.of_fits {ds : List Definition} {id : Nat} {d : Definition} (hd : ds[id]? = some d)
    {a : Action κ} (ha : a.Fits d) : Bound ds (a.form d.name).text (a.handler id) := by
  cases a with
  | call => exact .call hd
  | poll => exact .poll hd
  | read index => exact .read hd ha
  | answer => exact .answer hd

/-- Only those are. -/
theorem Bound.exists_fits {ds : List Definition} {name : String} {a : Action κ} {h : Handler}
    (hb : Bound ds (a.form name).text h) : ∃ d ∈ ds, d.name = name ∧ a.Fits d := by
  generalize htext : (a.form name).text = text at hb
  cases hb with
  | reload =>
    have hform : a.form name = .reload := HandlerForm.text_injective htext
    cases a <;> cases hform
  | @poll id d hd =>
    have hform : a.form name = .poll d.name := HandlerForm.text_injective htext
    cases a <;> cases hform
    exact ⟨d, List.mem_of_getElem? hd, rfl, trivial⟩
  | @call id d hd =>
    have hform : a.form name = .call d.name := HandlerForm.text_injective htext
    cases a <;> cases hform
    exact ⟨d, List.mem_of_getElem? hd, rfl, trivial⟩
  | @answer id d hd =>
    have hform : a.form name = .answer d.name := HandlerForm.text_injective htext
    cases a <;> cases hform
    exact ⟨d, List.mem_of_getElem? hd, rfl, trivial⟩
  | @read id index d hd hindex =>
    have hform : a.form name = .read d.name index := HandlerForm.text_injective htext
    cases a <;> cases hform
    exact ⟨d, List.mem_of_getElem? hd, rfl, hindex⟩

end Roster

namespace Session

section Blocks
variable {s : Session κ} (hs : s.Sound)
include hs

theorem Sound.handler?_of_fits {id : Nat} {r : Reporter κ}
    (hr : s.roster.reporters[id]? = some r) {a : Action κ} (ha : a.Fits r.definition) :
    s.roster.handler? (a.form r.definition.name).text = some (a.handler id) := by
  refine (hs.coherent.handler?_eq_some_iff _ _).mpr (.of_fits ?_ ha)
  exact Roster.getElem?_definitions_eq_some.mpr ⟨r, hr, rfl⟩

/-- **A block performs its action** on the reporter of the name. -/
theorem Sound.invoke_action {id : Nat} {r : Reporter κ} (hr : s.roster.reporters[id]? = some r)
    {a : Action κ} (ha : a.Fits r.definition) {args : List Value} {caller : Option κ}
    (hreq : (a.handler id).request? args caller = some (id, a)) :
    ∃ outcome, (r.step a).1.reply.outcome? = some outcome ∧
      s.invoke (a.form r.definition.name).text args caller =
        ⟨s.put id (r.step a).2, outcome, (r.step a).1.deliveries, (r.step a).1.lines⟩ := by
  obtain ⟨outcome, houtcome⟩ := r.exists_outcome a fun index hread => by
    subst hread
    rw [(hs.wellFormed r (List.mem_of_getElem? hr)).length_cells]
    exact ha
  exact ⟨outcome, houtcome, invoke_of_request (hs.handler?_of_fits hr ha) hreq hr houtcome⟩

/-- **An operation that acts on a reporter** runs the block of the action, unless it polls
them all. -/
theorem Sound.operation_of_action {id : Nat} {r : Reporter κ}
    (hr : s.roster.reporters[id]? = some r) {o : Operation κ} {a : Action κ}
    (ha : s.actionOn id o = some a) :
    (o = .pollAll ∧ a = .poll) ∨ ∃ args caller,
      o = .invoke (a.form r.definition.name).text args caller ∧
        (a.handler id).request? args caller = some (id, a) := by
  cases o with
  | reload | definePredicate | load | find => cases ha
  | pollAll =>
    have hthere : id < s.roster.size := (List.getElem?_eq_some_iff.mp hr).1
    rw [actionOn, if_pos hthere] at ha
    cases ha
    exact Or.inl ⟨rfl, rfl⟩
  | invoke handler args caller =>
    refine Or.inr ⟨args, caller, ?_⟩
    have hblock : (s.roster.handler? handler).bind (Handler.request? args caller) =
        some (id, a) := by
      simp only [actionOn] at ha
      split at ha
      · next id' a' hblock =>
        split at ha
        · next hid =>
          cases ha
          rw [hblock, hid]
        · cases ha
      · cases ha
    obtain ⟨h, hh, hreq⟩ := Option.bind_eq_some_iff.mp hblock
    have hbound := (hs.coherent.handler?_eq_some_iff handler h).mp hh
    have hdefinition : ∀ d, s.roster.definitions[id]? = some d → d = r.definition := by
      intro d hd
      obtain ⟨r', hr', rfl⟩ := Roster.getElem?_definitions_eq_some.mp hd
      cases hr.symm.trans hr'
      rfl
    cases hbound with
    | reload => cases hreq
    | poll hd | read hd =>
      cases hreq
      rw [hdefinition _ hd]
      exact ⟨rfl, rfl⟩
    | call hd =>
      obtain ⟨k, rfl, hk⟩ := Option.map_eq_some_iff.mp hreq
      cases hk
      rw [hdefinition _ hd]
      exact ⟨rfl, rfl⟩
    | answer hd =>
      obtain ⟨v, rfl, rfl, rfl⟩ := Handler.eq_of_request?_answer hreq
      rw [hdefinition _ hd]
      exact ⟨rfl, rfl⟩

/-- **A block that nobody has** is refused. -/
theorem Sound.invoke_nobody {name : String} {a : Action κ}
    (hnobody : ∀ d ∈ s.roster.definitions, d.name = name → ¬ a.Fits d) (args : List Value)
    (caller : Option κ) : s.invoke (a.form name).text args caller =
      s.refuse (.unknownHandler (a.form name).text) := by
  have hh : s.roster.handler? (a.form name).text = none := by
    cases hh : s.roster.handler? (a.form name).text with
    | none => rfl
    | some h =>
      obtain ⟨d, hd, hname, hfits⟩ := ((hs.coherent.handler?_eq_some_iff _ h).mp hh).exists_fits
      exact absurd hfits (hnobody d hd hname)
  simp only [invoke, hh]

end Blocks
end Session
end ReporterBlocks
