import ReporterBlocks.Reporter.Run

/-! # What one operation does to a reporter

`Reporter.step` can go ten ways, and `Way` lists them with everything that holds
when each is taken: `step_way` says that the step of an operation is one of
them.  Facts about every step are case analyses on it, so that no proof opens
`call`, `poll` or `answer` again.

The invariant of a live reporter is `WellFormed`.  A fresh reporter has it
(`fresh_wellFormed`) and every step keeps it (`WellFormed.step`); in particular
calls wait in the queue only behind a caller that is being served, so that an
idle reporter has nobody left to serve.
-/

namespace ReporterBlocks

/-- A boolean place keeps the truth of a value, and any other the value itself. -/
theorem ValueKind.admit_eq (kind : ValueKind) (v : Value) :
    kind.admit v = if kind = .boolean then .boolean v.truthy else v := by
  cases kind <;> rfl

/-- Writing to cells leaves each its parameter. -/
theorem Cell.parameter_writeAll (cs : List Cell) (vs : List Value) :
    (writeAll cs vs).map Cell.parameter = cs.map Cell.parameter := by
  induction cs generalizing vs with
  | nil => cases vs <;> rfl
  | cons c cs ih =>
    cases vs with
    | nil => rfl
    | cons v vs => simp [writeAll, write, ih]

namespace Reporter
variable {κ : Type}

/-- **The ways an operation can go.**  `Way r a p ds r'`: the operation `a` on
`r` is replied to with `p`, answers the callers in `ds`, and leaves `r'`. -/
inductive Way (r : Reporter κ) : Action κ → Reply → List (κ × Value) → Reporter κ → Prop
  /-- The call has too few or too many arguments. -/
  | misfit (c : Call κ) (hargs : c.args.length ≠ r.cells.length) :
      Way r (.call c) (.refused (.argumentCount r.definition.displayName r.cells.length
        c.args.length)) [] r
  /-- A caller waits and the queue is full. -/
  | full (c : Call κ) (k : κ) (hargs : c.args.length = r.cells.length)
      (hk : r.pending = some k) (hpolicy : r.overlap = .queue)
      (hfull : r.queueLimit ≤ r.queued) :
      Way r (.call c) (.refused (.queueFull r.definition.displayName r.queueLimit)) [] r
  /-- A caller waits and the call joins the queue. -/
  | queued (c : Call κ) (k : κ) (hargs : c.args.length = r.cells.length)
      (hk : r.pending = some k) (hpolicy : r.overlap = .queue)
      (hroom : r.queued < r.queueLimit) :
      Way r (.call c) .accepted [] { r with queue := r.queue ++ [c] }
  /-- A caller waits and the call takes its place. -/
  | superseding (c : Call κ) (k : κ) (hargs : c.args.length = r.cells.length)
      (hk : r.pending = some k) (hpolicy : r.overlap = .supersede) :
      Way r (.call c) .accepted [] (r.activate c)
  /-- Nobody waits and the call is taken up. -/
  | taken (c : Call κ) (hargs : c.args.length = r.cells.length) (hk : r.pending = none) :
      Way r (.call c) .accepted [] (r.activate c)
  | poll : Way r .poll (.polled r.armed) [] { r with armed := false }
  | read (index : Nat) : Way r (.read index) (.value (r.read index)) [] r
  /-- Nobody waits for the answer. -/
  | stray (v : Value) (hk : r.pending = none) :
      Way r (.answer v) .answered [] { r with result := r.resultOf v }
  /-- The answer goes to a caller behind whom nobody waits. -/
  | last (v : Value) (k : κ) (hk : r.pending = some k) (hq : r.queue = []) :
      Way r (.answer v) .answered [(k, r.resultOf v)]
        { r with result := r.resultOf v, pending := none }
  /-- The answer goes to a caller and the next call in the queue is taken up. -/
  | next (v : Value) (k : κ) (c : Call κ) (cs : List (Call κ)) (hk : r.pending = some k)
      (hq : r.queue = c :: cs) :
      Way r (.answer v) .answered [(k, r.resultOf v)]
        ({ r with result := r.resultOf v, pending := none, queue := cs }.activate c)

/-- **Every step goes one of the ways.** -/
theorem step_way (r : Reporter κ) (a : Action κ) :
    Way r a (r.step a).1.reply (r.step a).1.deliveries (r.step a).2 := by
  cases a with
  | poll => exact .poll
  | read index => exact .read index
  | answer v =>
    cases hk : r.pending with
    | none => simpa [step, answer, hk] using Way.stray v hk
    | some k =>
      cases hq : r.queue with
      | nil => simpa [step, answer, hk, hq] using Way.last v k hk hq
      | cons c cs => simpa [step, answer, hk, hq] using Way.next v k c cs hk hq
  | call c =>
    by_cases hargs : c.args.length = r.cells.length
    · cases hk : r.pending with
      | none => simpa [step, call, hargs, isPending, hk] using Way.taken c hargs hk
      | some k =>
        cases hp : r.overlap with
        | supersede =>
          simpa [step, call, hargs, isPending, hk, hp] using Way.superseding c k hargs hk hp
        | queue =>
          by_cases hroom : r.queueLimit ≤ r.queued
          · simpa [step, call, hargs, isPending, hk, hp, hroom] using
              Way.full c k hargs hk hp hroom
          · simpa [step, call, hargs, isPending, hk, hp, hroom] using
              Way.queued c k hargs hk hp (Nat.lt_of_not_le hroom)
    · simpa [step, call, hargs] using Way.misfit c hargs

/-! ## What no operation changes -/

section Kept
variable {r r' : Reporter κ} {a : Action κ} {p : Reply} {ds : List (κ × Value)}

theorem Way.definition_eq (h : Way r a p ds r') : r'.definition = r.definition := by
  cases h <;> rfl

theorem Way.overlap_eq (h : Way r a p ds r') : r'.overlap = r.overlap := by
  cases h <;> rfl

theorem Way.queueLimit_eq (h : Way r a p ds r') : r'.queueLimit = r.queueLimit := by
  cases h <;> rfl

theorem Way.parameters_eq (h : Way r a p ds r') :
    r'.cells.map Cell.parameter = r.cells.map Cell.parameter := by
  cases h with
  | superseding c | taken c | next _ _ c => exact Cell.parameter_writeAll _ c.args
  | _ => rfl

end Kept

/-! ## The invariant -/

/-- What holds of a reporter at all times. -/
structure WellFormed (r : Reporter κ) : Prop where
  /-- There is a cell for each parameter. -/
  parameters : r.cells.map Cell.parameter = r.definition.parameters
  /-- Calls that wait can be taken up. -/
  fits : ∀ c ∈ r.queue, c.args.length = r.cells.length
  within : r.queued ≤ r.queueLimit
  /-- Calls wait only behind a caller that is served. -/
  behind : r.pending = none → r.queue = []
  /-- Under `supersede` no call waits. -/
  policy : r.overlap = .supersede → r.queue = []

theorem fresh_wellFormed (d : Definition) (o : Overlap) (limit : Nat) :
    (fresh d o limit : Reporter κ).WellFormed where
  parameters := by simp [fresh, Function.comp_def, Cell.ofParameter]
  fits := by simp [fresh]
  within := Nat.zero_le _
  behind := fun _ => rfl
  policy := fun _ => rfl

theorem WellFormed.length_cells {r : Reporter κ} (hr : r.WellFormed) :
    r.cells.length = r.definition.arity := by
  simpa [Definition.arity] using congrArg List.length hr.parameters

theorem Way.length_cells_eq {r r' : Reporter κ} {a : Action κ} {p : Reply}
    {ds : List (κ × Value)} (h : Way r a p ds r') : r'.cells.length = r.cells.length := by
  simpa using congrArg List.length h.parameters_eq

theorem Way.wellFormed {r r' : Reporter κ} {a : Action κ} {p : Reply} {ds : List (κ × Value)}
    (h : Way r a p ds r') (hr : r.WellFormed) : r'.WellFormed where
  parameters := by rw [h.parameters_eq, h.definition_eq, hr.parameters]
  fits := by
    rw [h.length_cells_eq]
    cases h with
    | queued c _ hargs =>
      intro c' hc'
      rcases List.mem_append.mp hc' with hc' | hc'
      · exact hr.fits c' hc'
      · rw [List.mem_singleton.mp hc', hargs]
    | next _ _ c cs _ hq =>
      exact fun c' hc' => hr.fits c' (hq ▸ List.mem_cons_of_mem c hc')
    | _ => exact hr.fits
  within := by
    cases h with
    | queued c _ _ _ _ hroom =>
      rw [Reporter.queued, List.length_append, List.length_singleton]
      exact hroom
    | next _ _ c cs _ hq =>
      -- the queue has lost its oldest call
      have hin := hr.within
      rw [Reporter.queued, hq, List.length_cons] at hin
      exact Nat.le_of_succ_le hin
    | _ => exact hr.within
  behind := by
    cases h with
    | queued _ k _ hk => exact fun hn => absurd (hk.symm.trans hn) (by simp)
    | last _ _ _ hq => exact fun _ => hq
    | superseding | taken | next => exact fun hn => absurd hn (by simp [activate])
    | _ => exact hr.behind
  policy := by
    rw [h.overlap_eq]
    cases h with
    | queued _ _ _ _ hp => exact fun hs => absurd (hp.symm.trans hs) (by decide)
    | next _ _ c cs _ hq => exact fun hs => absurd (hq.symm.trans (hr.policy hs)) (by simp)
    | _ => exact hr.policy

theorem WellFormed.step {r : Reporter κ} (hr : r.WellFormed) (a : Action κ) :
    (r.step a).2.WellFormed :=
  (r.step_way a).wellFormed hr

end Reporter
end ReporterBlocks
