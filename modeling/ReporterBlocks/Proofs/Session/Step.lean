import ReporterBlocks.Proofs.Roster.Registration
import ReporterBlocks.Proofs.Session.Dispatch
import ReporterBlocks.Session.Run

/-! # What one operation does to a session

An operation asks for definitions to be registered (`asked`), or it performs an
action on reporters (`actionOn`): the block of a handler on one, a poll of the whole
session on all.  `Session.Way` lists what the effect can then be, and `step_way` says
that every operation on a sound session goes one of these ways; an operation that
fails in the dispatcher is one that registers nothing.

A session is `Sound` if its roster is coherent, its reporters are well-formed and the
roster has the policy of the settings.  A session starts sound and stays so.
-/

namespace ReporterBlocks.Session
variable {κ : Type}

/-- The action that an operation performs on the reporter `i`. -/
def actionOn (s : Session κ) (i : Nat) : Operation κ → Option (Action κ)
  | .invoke handler args caller =>
    match (s.roster.handler? handler).bind (Handler.request? args caller) with
    | some (id, a) => if id = i then some a else none
    | none => none
  | .pollAll => if i < s.roster.size then some .poll else none
  | _ => none

/-- The definitions that an operation asks to register, in order. -/
def asked (s : Session κ) : Operation κ → List Definition
  | .reload spec => [.reporter spec]
  | .definePredicate spec => [.predicate spec]
  | .load _ (.ok text) => (specifierLines text).map .reporter
  | .invoke handler args _ =>
    match s.roster.handler? handler, args with
    | some .reload, [spec] => [.reporter spec.display]
    | _, _ => []
  | _ => []

/-! ## Registrations -/

/-- The activity registers `ds` and delivers nothing; if all the names are known it
leaves the session as it is. -/
structure Registers {α : Type} (s : Session κ) (ds : List Definition) (e : Effect κ α) :
    Prop where
  roster : e.session.roster = s.roster.registerAll ds
  settings : e.session.settings = s.settings
  deliveries : e.deliveries = []
  unchanged : (∀ d ∈ ds, d.name ∈ s.roster.names) → e.session = s

section Registrations
variable {α β : Type} {s : Session κ} {ds : List Definition}

theorem Registers.map {e : Effect κ α} (h : Registers s ds e) (f : α → β) :
    Registers s ds (e.map f) :=
  ⟨h.roster, h.settings, h.deliveries, h.unchanged⟩

theorem Registers.andThen {ds' : List Definition} {first : Effect κ α}
    {next : Session κ → Effect κ β} (h : Registers s ds first)
    (h' : ∀ s', Registers s' ds' (next s')) :
    Registers s (ds ++ ds') (first.andThen next) where
  roster := by
    rw [Roster.registerAll_append, ← h.roster]
    exact (h' _).roster
  settings := (h' _).settings.trans h.settings
  deliveries := by
    rw [Effect.andThen, h.deliveries, (h' _).deliveries]
    rfl
  unchanged := by
    intro hknown
    have hfirst : first.session = s :=
      h.unchanged fun d hd => hknown d (List.mem_append_left _ hd)
    rw [Effect.andThen, hfirst]
    exact (h' s).unchanged fun d hd => hknown d (List.mem_append_right _ hd)

theorem quiet_registers (s : Session κ) (answer : α) : Registers s [] (s.quiet answer) :=
  ⟨rfl, rfl, rfl, fun _ => rfl⟩

theorem install_registers (s : Session κ) (d : Definition) : Registers s [d] (s.install d) := by
  by_cases hd : d.name ∈ s.roster.names
  · have hinstall : s.install d = ⟨s, false, [], [s.roster.registerLine d]⟩ := by
      rw [install, Roster.register?_of_known hd]
    rw [hinstall]
    refine ⟨?_, rfl, rfl, fun _ => rfl⟩
    rw [Roster.registerAll_cons, Roster.register_of_known hd, Roster.registerAll_nil]
  · refine ⟨?_, ?_, ?_, fun hknown => absurd (hknown d (List.mem_singleton_self d)) hd⟩
    · rw [Roster.registerAll_cons, Roster.register_of_new hd, install, Roster.register?_of_new hd]
      rfl
    · rw [install, Roster.register?_of_new hd]
      rfl
    · rw [install, Roster.register?_of_new hd]

theorem reloadAll_registers (s : Session κ) (specs : List String) :
    Registers s (specs.map .reporter) (s.reloadAll specs) := by
  induction specs generalizing s with
  | nil => exact quiet_registers s 0
  | cons spec specs ih =>
    rw [reloadAll]
    exact (install_registers s (.reporter spec)).andThen fun s' => (ih s').map _

theorem load_registers (s : Session κ) (path : String) (contents : Except FileFault String) :
    Registers s (s.asked (.load path contents)) (s.load path contents) := by
  cases contents with
  | error f => exact quiet_registers s _
  | ok text =>
    obtain ⟨hroster, hsettings, hdeliveries, hunchanged⟩ :=
      reloadAll_registers s (specifierLines text)
    exact ⟨hroster, hsettings, hdeliveries, hunchanged⟩

end Registrations

/-! ## Soundness -/

/-- What holds of a session at all times. -/
structure Sound (s : Session κ) : Prop where
  coherent : s.roster.Coherent
  wellFormed : ∀ r ∈ s.roster.reporters, r.WellFormed
  overlap : s.roster.overlap = s.settings.overlap
  queueLimit : s.roster.queueLimit = s.settings.queueLimit

theorem start_sound (settings : Settings) (palette : Palette) :
    (start settings palette : Session κ).Sound where
  coherent := Roster.empty_coherent _ _
  wellFormed := by simp [start, refresh, Roster.empty]
  overlap := rfl
  queueLimit := rfl

section Acting
variable {s : Session κ} (hs : s.Sound)
include hs

theorem Sound.registers {α : Type} {ds : List Definition} {e : Effect κ α}
    (h : Registers s ds e) : e.session.Sound where
  coherent := h.roster ▸ hs.coherent.registerAll ds
  wellFormed := by
    intro r hr
    rw [h.roster, Roster.reporters_registerAll, List.mem_append, List.mem_map] at hr
    rcases hr with hr | ⟨d, -, rfl⟩
    · exact hs.wellFormed r hr
    · exact Reporter.fresh_wellFormed d _ _
  overlap := by rw [h.roster, h.settings, Roster.registerAll_overlap, hs.overlap]
  queueLimit := by rw [h.roster, h.settings, Roster.registerAll_queueLimit, hs.queueLimit]

/-- Another state of its reporters keeps a session sound, if they are well-formed and
have the definitions that they had. -/
theorem Sound.withReporters {rs : List (Reporter κ)} (hrs : ∀ r ∈ rs, r.WellFormed)
    (hdefinitions : rs.map Reporter.definition = s.roster.definitions) :
    ({ s with roster := { s.roster with reporters := rs } } : Session κ).Sound where
  coherent := hs.coherent.congr hdefinitions rfl rfl
  wellFormed := hrs
  overlap := hs.overlap
  queueLimit := hs.queueLimit

theorem Sound.put {id : Nat} {r r' : Reporter κ} (hr : s.roster.reporters[id]? = some r)
    (hdefinition : r'.definition = r.definition) (hwf : r'.WellFormed) : (s.put id r').Sound := by
  refine hs.withReporters ?_ (Roster.definitions_put hr hdefinition)
  intro r₀ hr₀
  rcases List.mem_or_eq_of_mem_set hr₀ with hr₀ | rfl
  · exact hs.wellFormed r₀ hr₀
  · exact hwf

theorem Sound.pollAll : s.pollAll.session.Sound := by
  refine hs.withReporters ?_ ?_
  · intro r' hr'
    obtain ⟨r, hr, rfl⟩ := List.mem_map.mp hr'
    exact (hs.wellFormed r hr).step .poll
  · rw [List.map_map]
    rfl

end Acting

/-! ## The ways an operation can go -/

/-- **The ways a block can run.** -/
inductive Dispatch (s : Session κ) (handler : String) (args : List Value) (caller : Option κ) :
    Effect κ (Except Fault Outcome) → Prop
  | unknown (hh : s.roster.handler? handler = none) :
      Dispatch s handler args caller (s.refuse (.unknownHandler handler))
  | reload (spec : Value) (hh : s.roster.handler? handler = some .reload)
      (hargs : args = [spec]) :
      Dispatch s handler args caller ((s.reload spec.display).map fun _ => .ok .done)
  /-- The arguments or the caller are not what the block needs. -/
  | refused (h : Handler) (f : Fault) (hh : s.roster.handler? handler = some h)
      (hreq : h.request? args caller = none)
      (hasked : s.asked (.invoke handler args caller) = [])
      (hf : f = .missingCompletion handler ∨ f = .argumentCount handler 1 args.length) :
      Dispatch s handler args caller (s.refuse f)
  /-- The reporter `id` performs the action `a`. -/
  | acts (h : Handler) (id : Nat) (a : Action κ) (r : Reporter κ) (outcome : Except Fault Outcome)
      (hh : s.roster.handler? handler = some h)
      (hreq : h.request? args caller = some (id, a)) (hr : s.roster.reporters[id]? = some r)
      (houtcome : (r.step a).1.reply.outcome? = some outcome) :
      Dispatch s handler args caller
        ⟨s.put id (r.step a).2, outcome, (r.step a).1.deliveries, (r.step a).1.lines⟩

/-- **Every block runs one of the ways**: the reporter of a handler is there and has the
parameter that the handler reads. -/
theorem Sound.dispatch {s : Session κ} (hs : s.Sound) (handler : String) (args : List Value)
    (caller : Option κ) : Dispatch s handler args caller (s.invoke handler args caller) := by
  cases hh : s.roster.handler? handler with
  | none =>
    have hinvoke : s.invoke handler args caller = s.refuse (.unknownHandler handler) := by
      simp only [invoke, hh]
    rw [hinvoke]
    exact .unknown hh
  | some h =>
    by_cases hreload : h = .reload
    · subst hreload
      rcases args with _ | ⟨spec, _ | ⟨v, vs⟩⟩
      · simp only [invoke, hh]
        exact .refused .reload _ hh rfl (by simp only [asked, hh]) (Or.inr rfl)
      · simp only [invoke, hh]
        exact .reload spec hh rfl
      · simp only [invoke, hh]
        exact .refused .reload _ hh rfl (by simp only [asked, hh]) (Or.inr rfl)
    · have hasked : s.asked (.invoke handler args caller) = [] := by
        cases h with
        | reload => exact absurd rfl hreload
        | _ => simp only [asked, hh]
      cases hreq : h.request? args caller with
      | none =>
        obtain ⟨f, hf, hinvoke⟩ := invoke_of_no_request hh hreload hreq
        rw [hinvoke]
        exact .refused h f hh hreq hasked hf
      | some p =>
        obtain ⟨id, a⟩ := p
        obtain ⟨r, hr⟩ := hs.coherent.exists_reporter hh (Handler.reporter?_of_request? hreq)
        -- the roster binds reads below the arity only, and there is a cell for each
        have hread : ∀ index, a = .read index → index < r.cells.length := by
          rintro index rfl
          rw [(hs.wellFormed r (List.mem_of_getElem? hr)).length_cells]
          exact hs.coherent.index_lt_arity (Handler.eq_read_of_request? hreq ▸ hh) hr
        obtain ⟨outcome, houtcome⟩ := r.exists_outcome a hread
        rw [invoke_of_request hh hreq hr houtcome]
        exact .acts h id a r outcome hh hreq hr houtcome

/-- **The faults that running a block can meet.**  No block reads out of bounds. -/
theorem Sound.invoke_fault {s : Session κ} (hs : s.Sound) {handler : String} {args : List Value}
    {caller : Option κ} {f : Fault} (hf : (s.invoke handler args caller).answer = .error f) :
    f = .unknownHandler handler ∨ f = .missingCompletion handler ∨
      (∃ block expected got, f = .argumentCount block expected got) ∨
      ∃ reporter limit, f = .queueFull reporter limit := by
  have hdispatch := hs.dispatch handler args caller
  generalize s.invoke handler args caller = e at hdispatch hf
  cases hdispatch with
  | unknown =>
    cases hf
    exact Or.inl rfl
  | reload => cases hf
  | refused _ _ _ _ _ hrefused =>
    cases hf
    rcases hrefused with rfl | rfl
    · exact Or.inr (Or.inl rfl)
    · exact Or.inr (Or.inr (Or.inl ⟨_, _, _, rfl⟩))
  | acts _ _ a r _ _ _ _ houtcome =>
    cases hf
    rcases r.fault_of_outcome a houtcome with ⟨got, rfl⟩ | rfl
    · exact Or.inr (Or.inr (Or.inl ⟨_, _, got, rfl⟩))
    · exact Or.inr (Or.inr (Or.inr ⟨_, _, rfl⟩))

/-- **The ways an operation can go.** -/
inductive Way (s : Session κ) : Operation κ → Effect κ Response → Prop
  /-- It registers what it asks for, which can be nothing. -/
  | registers (o : Operation κ) (e : Effect κ Response) (haction : ∀ i, s.actionOn i o = none)
      (h : Registers s (s.asked o) e) : Way s o e
  /-- It runs a block of the reporter `id`. -/
  | acts (handler : String) (args : List Value) (caller : Option κ) (id : Nat) (a : Action κ)
      (r : Reporter κ) (outcome : Except Fault Outcome)
      (haction : ∀ i, s.actionOn i (.invoke handler args caller) = if id = i then some a else none)
      (hr : s.roster.reporters[id]? = some r)
      (houtcome : (r.step a).1.reply.outcome? = some outcome) :
      Way s (.invoke handler args caller)
        ⟨s.put id (r.step a).2, .ran outcome, (r.step a).1.deliveries, (r.step a).1.lines⟩
  | polls : Way s .pollAll (s.pollAll.map .fired)

theorem Sound.invoke_way {s : Session κ} (hs : s.Sound) (handler : String) (args : List Value)
    (caller : Option κ) :
    Way s (.invoke handler args caller) ((s.invoke handler args caller).map .ran) := by
  have hdispatch := hs.dispatch handler args caller
  generalize s.invoke handler args caller = e at hdispatch ⊢
  cases hdispatch with
  | unknown hh =>
    have hasked : s.asked (.invoke handler args caller) = [] := by simp only [asked, hh]
    refine .registers _ _ (fun i => by simp [actionOn, hh]) ?_
    rw [hasked]
    exact (quiet_registers s _).map _
  | reload spec hh hargs =>
    have hasked : s.asked (.invoke handler args caller) = [.reporter spec.display] := by
      simp only [asked, hh, hargs]
    refine .registers _ _ (fun i => by simp [actionOn, hh, Handler.request?]) ?_
    rw [hasked]
    exact ((install_registers s _).map _).map _
  | refused h f hh hreq hasked =>
    refine .registers _ _ (fun i => by simp [actionOn, hh, hreq]) ?_
    rw [hasked]
    exact (quiet_registers s _).map _
  | acts h id a r outcome hh hreq hr houtcome =>
    exact .acts handler args caller id a r outcome (fun i => by simp [actionOn, hh, hreq]) hr
      houtcome

/-- **Every operation on a sound session goes one of the ways.** -/
theorem Sound.step_way {s : Session κ} (hs : s.Sound) (o : Operation κ) : Way s o (s.step o) := by
  cases o with
  | reload spec => exact .registers _ _ (fun _ => rfl) ((install_registers s _).map _)
  | definePredicate spec => exact .registers _ _ (fun _ => rfl) ((install_registers s _).map _)
  | load path contents =>
    exact .registers _ _ (fun _ => rfl) ((load_registers s path contents).map _)
  | find spec => exact .registers _ _ (fun _ => rfl) (quiet_registers s _)
  | invoke handler args caller => exact hs.invoke_way handler args caller
  | pollAll => exact .polls

/-- **A session stays sound.** -/
theorem Sound.step {s : Session κ} (hs : s.Sound) (o : Operation κ) : (s.step o).session.Sound := by
  have hway := hs.step_way o
  generalize s.step o = e at hway ⊢
  cases hway with
  | registers _ _ _ h => exact hs.registers h
  | acts _ _ _ id a r _ _ hr =>
    exact hs.put hr (r.step_way a).definition_eq
      ((hs.wellFormed r (List.mem_of_getElem? hr)).step a)
  | polls => exact hs.pollAll

end ReporterBlocks.Session
