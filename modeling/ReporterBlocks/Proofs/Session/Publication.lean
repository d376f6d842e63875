import ReporterBlocks.Proofs.Definition.Signature
import ReporterBlocks.Proofs.Reporter.Arguments
import ReporterBlocks.Proofs.Session.Naming
import ReporterBlocks.Proofs.Session.Refusal
import ReporterBlocks.Proofs.Session.Showing

/-! # What the rows promise

The shape of a row tells the host what kind of value its block gives, and the template of
the row that calls a reporter tells it how many arguments there are.  Both are worked out
from the specifier when the reporter is defined, and so are its cells and the kind of its
result; but they are worked out apart, and values are admitted in two further places.

A row keeps its promise if the block gives the value that it is given, or the truth of it
where the shape is that of a predicate (`BlockKind.passes`).  `rows_keep_promises` says that
all the rows of a session do, that a reporter has a row for each slot of its template, and
that the block that calls it takes an argument for each.
-/

namespace ReporterBlocks
variable {κ : Type}

/-! ## Kinds and arity of the rows -/

/-- What a block of the shape gives where it is given a value: a predicate gives the truth
of it. -/
def BlockKind.passes : BlockKind → Value → Value
  | predicate, v | waitingPredicate, v => .boolean v.truthy
  | hat, v | command, v | reporter, v | waitingReporter, v => v

namespace ValueKind

theorem passes_reading (kind : ValueKind) : kind.reading.passes = kind.admit := by
  cases kind <;> rfl

theorem passes_waiting (kind : ValueKind) : kind.waiting.passes = kind.admit := by
  cases kind <;> rfl

end ValueKind

namespace Definition

/-- The rows that read the parameters, in order. -/
def readRows (d : Definition) : List Row := d.parameters.mapIdx d.readRow

theorem getElem?_readRows {d : Definition} {index : Nat} {row : Row} :
    d.readRows[index]? = some row ↔
      ∃ p, d.parameters[index]? = some p ∧ d.readRow index p = row := by
  rw [readRows, List.getElem?_mapIdx, Option.map_eq_some_iff]

/-- The definition is that of some text. -/
def Written (d : Definition) : Prop := ∃ spec result, d = ofText spec result

theorem Written.slots_callTemplate {d : Definition} (hd : d.Written) :
    d.callTemplate.slots = d.parameters.map Parameter.slot := by
  obtain ⟨spec, result, rfl⟩ := hd
  rw [ofText, slots_parameters]
  exact Template.slots_ofPieces _

theorem Written.kind_eq {d : Definition} (hd : d.Written) {p : Parameter}
    (hp : p ∈ d.parameters) : p.kind = p.slot.valueKind := by
  obtain ⟨spec, result, rfl⟩ := hd
  obtain ⟨piece, -, hpiece⟩ := List.mem_filterMap.mp hp
  cases piece with
  | label text => cases hpiece
  | slot kind name =>
    cases hpiece
    rfl

/-- There is a row for each slot, of the shape that reads what fits it. -/
theorem Written.map_kind_readRows {d : Definition} (hd : d.Written) :
    d.readRows.map Row.kind = d.callTemplate.slots.map fun slot => slot.valueKind.reading := by
  rw [hd.slots_callTemplate, List.map_map]
  refine List.ext_getElem? fun index => ?_
  rw [readRows, List.getElem?_map, List.getElem?_mapIdx, List.getElem?_map, Option.map_map]
  cases hp : d.parameters[index]? with
  | none => rfl
  | some p => exact congrArg (some ·.reading) (hd.kind_eq (List.mem_of_getElem? hp))

theorem Written.length_slots {d : Definition} (hd : d.Written) :
    d.callTemplate.slots.length = d.arity := by
  rw [hd.slots_callTemplate, List.length_map, arity]

end Definition

namespace Session

/-! ## Reporters of a session -/

theorem written_of_asked {s : Session κ} {o : Operation κ} {d : Definition} (hd : d ∈ s.asked o) :
    d.Written := by
  cases o with
  | reload spec => exact ⟨spec, _, List.mem_singleton.mp hd⟩
  | definePredicate spec => exact ⟨spec, _, List.mem_singleton.mp hd⟩
  | load path contents =>
    cases contents with
    | error f => cases hd
    | ok text =>
      obtain ⟨spec, -, rfl⟩ := List.mem_map.mp hd
      exact ⟨spec, _, rfl⟩
  | invoke handler args caller =>
    simp only [asked] at hd
    split at hd
    · exact ⟨_, _, List.mem_singleton.mp hd⟩
    · cases hd
  | find | pollAll => cases hd

section Reporters
variable {s : Session κ} (hs : s.Sound)
include hs

theorem Sound.written_after (hwritten : ∀ d ∈ s.roster.definitions, d.Written)
    (os : List (Operation κ)) : ∀ d ∈ (s.after os).roster.definitions, d.Written := by
  induction os generalizing s with
  | nil => exact hwritten
  | cons o os ih =>
    refine ih (hs.step o) fun d hd => ?_
    rw [hs.step_definitions, List.mem_append] at hd
    rcases hd with hd | hd
    · exact hwritten d hd
    · exact written_of_asked ((firstOfName_sublist _ _).subset hd)

/-- The rows of a reporter stand together in the palette that shows the table. -/
theorem Sound.rows_shown {n : Nat} (hshows : s.ShowsTable n) {r : Reporter κ}
    (hr : r ∈ s.roster.reporters) : r.definition.rows <:+: s.palette.rows := by
  have hrows : s.palette.rows = [Row.entry] ++ s.roster.definitions.flatMap Definition.rows := by
    rw [hshows, hs.coherent.rows]
    rfl
  have hmem : r.definition.rows ∈ s.roster.definitions.map Definition.rows :=
    List.mem_map_of_mem (List.mem_map_of_mem hr)
  rw [hrows, List.flatMap_def]
  exact (List.infix_of_mem_flatten hmem).trans (List.suffix_append _ _).isInfix

/-! ## What the blocks do -/

variable {i : Nat} {r : Reporter κ} (hr : s.roster.reporters[i]? = some r)
include hr

/-- A block that reads a parameter is never refused. -/
theorem Sound.answer_read {index : Nat} {row : Row}
    (hrow : r.definition.readRows[index]? = some row) (args : List Value) (caller : Option κ) :
    ∃ v, r.read index = some v ∧ (s.invoke row.handler args caller).answer = .ok (.value v) := by
  obtain ⟨p, hp, rfl⟩ := Definition.getElem?_readRows.mp hrow
  have hfits : (Action.read index : Action κ).Fits r.definition :=
    (List.getElem?_eq_some_iff.mp hp).1
  have hreq : ((Action.read index : Action κ).handler i).request? args caller =
      some (i, .read index) := rfl
  obtain ⟨outcome, houtcome, hinvoke⟩ := hs.invoke_action hr hfits hreq
  obtain ⟨v, hv, rfl⟩ := Option.map_eq_some_iff.mp houtcome
  exact ⟨v, hv, congrArg Effect.answer hinvoke⟩

/-- The block that calls a reporter takes one argument for each parameter. -/
theorem Sound.answer_call (args : List Value) (k : κ) :
    let answer := (s.invoke r.definition.callRow.handler args (some k)).answer
    (args.length ≠ r.definition.arity →
      answer = .error
        (.argumentCount r.definition.displayName r.definition.arity args.length)) ∧
    (args.length = r.definition.arity →
      answer = .ok .pending ∨
        answer = .error (.queueFull r.definition.displayName r.queueLimit)) := by
  intro answer
  have hh : s.roster.handler? r.definition.callRow.handler = some (.call i) :=
    (hs.coherent.handler?_eq_call_iff _ i).mpr ⟨r, hr, rfl⟩
  have hfaults := (hs.wellFormed r (List.mem_of_getElem? hr)).call_eq_error_iff ⟨args, k⟩
  constructor
  · intro hargs
    exact (invoke_error_iff_of_call hh hr).mpr ((hfaults _).mpr (Or.inl ⟨hargs, rfl⟩))
  · intro hargs
    cases hcall : r.call ⟨args, k⟩ with
    | ok r' =>
      refine Or.inl ?_
      simp only [answer, invoke, hh, onReporter, hr, hcall]
    | error f =>
      rcases (hfaults f).mp hcall with ⟨hmisfit, -⟩ | ⟨-, -, -, -, rfl⟩
      · exact absurd hargs hmisfit
      · exact Or.inr ((invoke_error_iff_of_call hh hr).mpr hcall)

/-- The block that hands a value back answers whoever waits. -/
theorem Sound.deliveries_answer (w : Value) (caller : Option κ) :
    (s.invoke r.definition.answerRow.handler [w] caller).deliveries =
      r.pending.toList.map fun k => (k, r.definition.callRow.kind.passes w) := by
  have hreq : ((Action.answer w : Action κ).handler i).request? [w] caller =
      some (i, .answer w) := rfl
  have hfits : (Action.answer w : Action κ).Fits r.definition := trivial
  obtain ⟨outcome, -, hinvoke⟩ := hs.invoke_action hr hfits hreq
  have hdeliveries : (s.invoke r.definition.answerRow.handler [w] caller).deliveries =
      (r.step (.answer w)).1.deliveries := congrArg Effect.deliveries hinvoke
  rw [hdeliveries, Reporter.deliveries_answer, Definition.callRow, ValueKind.passes_waiting]
  rfl

omit hr in
/-- **Only the blocks that hand values back deliver.** -/
theorem Sound.answer_of_delivered {o : Operation κ} {k : κ} {v : Value}
    (h : (k, v) ∈ (s.step o).deliveries) :
    ∃ (i : Nat) (r : Reporter κ) (w : Value) (caller : Option κ),
      s.roster.reporters[i]? = some r ∧ o = .invoke r.definition.answerRow.handler [w] caller ∧
        r.pending = some k ∧ v = r.definition.callRow.kind.passes w := by
  have hway := hs.step_way o
  generalize s.step o = e at hway h
  cases hway with
  | registers _ _ _ hregisters =>
    rw [hregisters.deliveries] at h
    cases h
  | acts handler args caller i a r outcome haction hr =>
    obtain ⟨w, rfl, hpending, hv⟩ := Reporter.answer_of_delivered h
    rcases hs.operation_of_action hr ((haction i).trans (if_pos rfl)) with
      ⟨hpoll, -⟩ | ⟨args', caller', hoperation, hreq⟩
    · cases hpoll
    · obtain ⟨v', rfl, -, hanswer⟩ := Handler.eq_of_request?_answer hreq
      cases hanswer
      refine ⟨i, r, w, caller', hr, hoperation, hpending, ?_⟩
      rw [hv, Definition.callRow, ValueKind.passes_waiting]
  | polls => cases h

/-- A call that the reporter accepts in a run was made of the block that calls it. -/
theorem Sound.moment_of_accepted (os : List (Operation κ)) {c : Call κ}
    (hc : c ∈ r.acceptedCalls (s.actionsOn i os)) :
    ∃ m ∈ s.history os, m.effect.answer = .ran (.ok .pending) ∧
      m.operation = .invoke r.definition.callRow.handler c.args (some c.caller) := by
  induction os generalizing s r with
  | nil => cases hc
  | cons o os ih =>
    have hway := hs.step_way o
    rw [history_cons, List.exists_mem_cons_iff]
    cases ha : s.actionOn i o with
    | none =>
      rw [actionsOn_cons_of_none os ha] at hc
      exact Or.inr (ih (hs.step o) (hway.untouched hr ha) hc)
    | some a =>
      obtain ⟨hnext, htells⟩ := hway.acted hr ha
      rw [actionsOn_cons_of_some os ha, Reporter.acceptedCalls_cons, List.mem_append,
        Option.mem_toList] at hc
      rcases hc with hc | hc
      · obtain ⟨hcall, haccepted⟩ := Moment.call_of_accepted hc
        obtain rfl : a = .call c := hcall
        refine Or.inl ⟨htells.pending_of_accepted haccepted, ?_⟩
        rcases hs.operation_of_action hr ha with ⟨-, hpoll⟩ | ⟨args, caller, rfl, hreq⟩
        · cases hpoll
        · obtain ⟨k, rfl, hk⟩ := Option.map_eq_some_iff.mp hreq
          cases hk
          rfl
      · obtain ⟨m, hm, hanswer, hoperation⟩ := ih (hs.step o) hnext hc
        rw [(r.step_way a).definition_eq] at hoperation
        exact Or.inr ⟨m, hm, hanswer, hoperation⟩

end Reporters

/-! ## The promises -/

/-- **The rows of a reporter keep their promises**, where `latest` is the call that its
script runs for, if it has been called. -/
structure KeepsPromises (s : Session κ) (r : Reporter κ) (latest : Option (Call κ)) : Prop where
  /-- The host shows the rows. -/
  shown : r.definition.hatRow :: r.definition.callRow :: r.definition.answerRow ::
    r.definition.readRows <:+: s.palette.rows
  /-- There is a row for each slot of the template, and it has the shape for it. -/
  slots : r.definition.readRows.map Row.kind =
    r.definition.callTemplate.slots.map fun slot => slot.valueKind.reading
  /-- The row of a slot always reads what its shape passes of the argument for it. -/
  reads : ∀ (index : Nat) (row : Row), r.definition.readRows[index]? = some row →
    ∀ args caller,
      ∃ v, (s.invoke row.handler args caller).answer = .ok (.value v) ∧
        (latest = none → v = .empty) ∧
        ∀ c, latest = some c → ∃ w, c.args[index]? = some w ∧ v = row.kind.passes w
  /-- A call needs an argument for each slot, no less and no more. -/
  misfits : ∀ args k, args.length ≠ r.definition.callTemplate.slots.length →
    (s.invoke r.definition.callRow.handler args (some k)).answer =
      .error (.argumentCount r.definition.displayName
        r.definition.callTemplate.slots.length args.length)
  /-- With these it is accepted, unless the queue is full. -/
  fits : ∀ args k, args.length = r.definition.callTemplate.slots.length →
    (s.invoke r.definition.callRow.handler args (some k)).answer = .ok .pending ∨
      (s.invoke r.definition.callRow.handler args (some k)).answer =
        .error (.queueFull r.definition.displayName r.queueLimit)
  /-- Whoever is served gets what the shape of the call passes of the value handed back. -/
  answers : ∀ w caller, (s.invoke r.definition.answerRow.handler [w] caller).deliveries =
    r.pending.toList.map fun k => (k, r.definition.callRow.kind.passes w)

/-- **The call that a reporter serves was made of its block**, and was accepted there. -/
theorem moment_of_latestCall (settings : Settings) (palette : Palette)
    (os : List (Operation κ)) {i : Nat} {r : Reporter κ}
    (hr : ((start settings palette).after os).roster.reporters[i]? = some r) {c : Call κ}
    (hc : (Reporter.fresh r.definition settings.overlap settings.queueLimit).latestCall
      ((start settings palette).actionsOn i os) = some c) :
    ∃ m ∈ (start settings palette).history os, m.effect.answer = .ran (.ok .pending) ∧
      m.operation = .invoke r.definition.callRow.handler c.args (some c.caller) := by
  have hs : (start settings palette : Session κ).Sound := start_sound settings palette
  have hempty : (start settings palette : Session κ).roster.reporters[i]? = none :=
    List.getElem?_nil
  obtain ⟨bs, os', rfl, hfresh, hactions, -⟩ := hs.exists_registration hempty os hr
  have htaken := List.mem_of_getLast? hc
  rw [hactions] at htaken
  rcases Reporter.queued_or_accepted _ (Or.inl htaken) with hqueued | haccepted
  · cases hqueued
  · obtain ⟨m, hm, hmoment⟩ := (hs.after bs).moment_of_accepted hfresh os' haccepted
    refine ⟨m, ?_, hmoment⟩
    rw [history_append]
    exact List.mem_append_right _ hm

/-- **The rows agree with the live values, in kind and in arity.**  In every session that
has been run from its start the rows of each reporter keep their promises, and the call
that a reporter serves was made of the block of its call row.  Whatever is done next, only
the block that hands a reporter's value back answers anybody: a caller whose call of that
reporter was accepted, with what the shape of the call row passes of the value. -/
theorem rows_keep_promises (settings : Settings) (palette : Palette)
    (os : List (Operation κ)) :
    let first : Session κ := start settings palette
    let s := first.after os
    (∀ (i : Nat) (r : Reporter κ), s.roster.reporters[i]? = some r →
      let alone : Reporter κ := .fresh r.definition settings.overlap settings.queueLimit
      let latest := alone.latestCall (first.actionsOn i os)
      s.KeepsPromises r latest ∧
        ∀ c, latest = some c → ∃ m ∈ first.history os, m.effect.answer = .ran (.ok .pending) ∧
          m.operation = .invoke r.definition.callRow.handler c.args (some c.caller)) ∧
    ∀ o k v, (k, v) ∈ (s.step o).deliveries → ∃ r ∈ s.roster.reporters,
      (∃ w caller, o = .invoke r.definition.answerRow.handler [w] caller ∧
        v = r.definition.callRow.kind.passes w) ∧
      ∃ m ∈ first.history os, m.effect.answer = .ran (.ok .pending) ∧
        ∃ args, m.operation = .invoke r.definition.callRow.handler args (some k) := by
  intro first s
  have hfirst : first.Sound := start_sound settings palette
  have hs : s.Sound := hfirst.after os
  have hshows := hfirst.showsTable_after (start_showsTable settings palette) os
  have hwritten : ∀ d ∈ s.roster.definitions, d.Written :=
    hfirst.written_after (fun d hd => nomatch hd) os
  have halone : ∀ {i : Nat} {r : Reporter κ}, s.roster.reporters[i]? = some r →
      r = (Reporter.fresh r.definition settings.overlap settings.queueLimit).after
        (first.actionsOn i os) :=
    fun hr => (hfirst.starts List.getElem?_nil os hr).1
  refine ⟨?_, ?_⟩
  · intro i r hr alone latest
    have hfresh : alone.WellFormed := Reporter.fresh_wellFormed _ _ _
    have hd : r.definition.Written :=
      hwritten _ (List.mem_map_of_mem (List.mem_of_getElem? hr))
    refine ⟨?_, fun c hc => moment_of_latestCall settings palette os hr hc⟩
    constructor
    case shown => exact hs.rows_shown hshows (List.mem_of_getElem? hr)
    case slots => exact hd.map_kind_readRows
    case reads =>
      intro index row hrow args caller
      obtain ⟨v, hread, hanswer⟩ := hs.answer_read hr hrow args caller
      obtain ⟨p, hp, rfl⟩ := Definition.getElem?_readRows.mp hrow
      refine ⟨v, hanswer, ?_, ?_⟩
      · intro hnone
        have hcells : r.cells = alone.cells :=
          (congrArg Reporter.cells (halone hr)).trans
            (Reporter.keeps_of_latestCall_eq_none _ hnone).1
        have hempty := Reporter.fresh_read (κ := κ) r.definition settings.overlap
          settings.queueLimit (List.getElem?_eq_some_iff.mp hp).1
        rw [Reporter.read, hcells] at hread
        exact Option.some.inj (hread.symm.trans hempty)
      · intro c hc
        have hserves : r.Serves c := by
          rw [halone hr]
          exact Reporter.serves_latestCall _ hfresh hc
        obtain ⟨w, v', hw, hread', rfl⟩ := hserves.exists_read hp
        refine ⟨w, hw, ?_⟩
        rw [Definition.readRow, ValueKind.passes_reading]
        exact Option.some.inj (hread.symm.trans hread')
    case misfits =>
      rw [hd.length_slots]
      exact fun args k => (hs.answer_call hr args k).1
    case fits =>
      rw [hd.length_slots]
      exact fun args k => (hs.answer_call hr args k).2
    case answers => exact hs.deliveries_answer hr
  · intro o k v hdelivered
    obtain ⟨i, r, w, caller, hr, ho, hpending, hv⟩ := hs.answer_of_delivered hdelivered
    refine ⟨r, List.mem_of_getElem? hr, ⟨w, caller, ho, hv⟩, ?_⟩
    rw [halone hr] at hpending
    have hfresh := Reporter.fresh_wellFormed (κ := κ) r.definition settings.overlap
      settings.queueLimit
    cases hlatest : (Reporter.fresh r.definition settings.overlap settings.queueLimit).latestCall
        (first.actionsOn i os) with
    | none => cases (Reporter.keeps_of_latestCall_eq_none _ hlatest).2 k hpending
    | some c =>
      obtain rfl : k = c.caller := (Reporter.serves_latestCall _ hfresh hlatest).waits k hpending
      obtain ⟨m, hm, hanswer, hoperation⟩ := moment_of_latestCall settings palette os hr hlatest
      exact ⟨m, hm, hanswer, c.args, hoperation⟩

/-- A predicate is called with its two arguments: the second one is read as a truth value, a
call without arguments is refused, and the caller is answered with a truth value. -/
theorem rows_keep_promises_predicate :
    let d := Definition.predicate "p [x] <b>"
    let first : Session Nat := start ⟨"blocks", .queue, 1⟩ .empty
    let os : List (Operation Nat) := [.definePredicate "p [x] <b>",
      .invoke (HandlerName.call d.name) [.text "a", .text "0"] (some 1)]
    let s := first.after os
    let answered := s.step (.invoke (HandlerName.answer d.name) [.text "yes"] none)
    (∃ b, (s.invoke (HandlerName.read d.name 1) [] none).answer = .ok (.value (.boolean b))) ∧
    (s.invoke (HandlerName.call d.name) [] (some 2)).answer =
      .error (.argumentCount d.displayName 2 0) ∧
    answered.deliveries ≠ [] ∧ ∀ k v, (k, v) ∈ answered.deliveries → ∃ b, v = .boolean b := by
  intro d first os s answered
  have hdefinition : s.roster.reporters[0]?.map Reporter.definition = some d := by
    decide +kernel
  obtain ⟨r, hr, hd⟩ := Option.map_eq_some_iff.mp hdefinition
  obtain ⟨hreporters, hdelivered⟩ := rows_keep_promises (κ := Nat) ⟨"blocks", .queue, 1⟩ .empty os
  obtain ⟨hkeeps, -⟩ := hreporters 0 r hr
  have hcalled : ((Reporter.fresh d .queue 1).latestCall (first.actionsOn 0 os)).isSome = true := by
    decide +kernel
  have hslots : d.callTemplate.slots.length = 2 := by decide +kernel
  obtain ⟨c, hc⟩ := Option.isSome_iff_exists.mp hcalled
  rw [hd] at hkeeps
  refine ⟨?_, ?_, ?_, ?_⟩
  · have hrow : d.readRows[1]? = some (d.readRow 1 ⟨"b", .boolean, .boolean⟩) := by
      decide +kernel
    rw [← hd] at hrow
    obtain ⟨v, hanswer, -, hvalue⟩ := hkeeps.reads 1 _ hrow [] none
    obtain ⟨w, -, rfl⟩ := hvalue c hc
    rw [hd] at hanswer
    exact ⟨w.truthy, hanswer⟩
  · have hmisfit := hkeeps.misfits [] 2
    rw [hd, hslots] at hmisfit
    exact hmisfit (by decide)
  · have hsome : answered.deliveries.isEmpty = false := by decide +kernel
    exact List.isEmpty_eq_false_iff.mp hsome
  · intro k v hkv
    obtain ⟨r', hr', ⟨w, -, -, rfl⟩, -⟩ := hdelivered _ k v hkv
    have hall : ∀ r' ∈ s.roster.reporters,
        r'.definition.callRow.kind = .waitingPredicate := by decide +kernel
    rw [hall r' hr']
    exact ⟨w.truthy, rfl⟩

end Session
end ReporterBlocks
