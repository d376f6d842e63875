import Mathlib.Algebra.GroupWithZero.Nat
import ReporterBlocks.Proofs.Session.Naming
import ReporterBlocks.Proofs.Text.Cut
import ReporterBlocks.Scenario.Run

/-! # Performing a scenario without a session

A `Troupe` is what a scenario is about: reporters that are known by their safe names and
nothing else, no table of blocks, no handlers and no host.  A definition joins unless its
name is taken (`define`), and whoever is asked for an action by name performs it
(`turn`, `act`); if nobody has the name the answer is that there is no such block.

`Step.Goes` says that a step goes as it is meant to: what the troupe replies is what the
step expects (`Step.Expects`).  `Step.GoAll` says it of all the steps of a scenario.
-/

namespace ReporterBlocks
variable {κ : Type}

/-! ## Reporters by name -/

/-- Reporters by themselves, with the policy for those who join. -/
structure Troupe (κ : Type) where
  overlap : Overlap
  queueLimit : Nat
  reporters : List (Reporter κ)

namespace Troupe

/-- The safe names of the reporters. -/
def names (t : Troupe κ) : List String := t.reporters.map fun r => r.definition.name

/-- A definition joins as a fresh reporter, unless its name is taken. -/
def define (t : Troupe κ) (d : Definition) : Troupe κ :=
  if d.name ∈ t.names then t
  else { t with reporters := t.reporters ++ [.fresh d t.overlap t.queueLimit] }

/-- The reporter of a safe name. -/
def named? (t : Troupe κ) (name : String) : Option (Reporter κ) :=
  t.reporters.find? fun r => r.definition.name = name

/-- What the reporter of a safe name does when it is asked for an action.  Nobody at all
refuses: there is no block of that name. -/
def turn (t : Troupe κ) (name : String) (a : Action κ) : Turn κ :=
  match t.named? name with
  | some r => (r.step a).1
  | none => ⟨.refused (.unknownHandler (a.form name).text), [], []⟩

/-- The troupe after it. -/
def act (t : Troupe κ) (name : String) (a : Action κ) : Troupe κ :=
  { t with reporters := t.reporters.map fun r =>
      if r.definition.name = name then (r.step a).2 else r }

/-- The blocks that the troupe needs: the entry block, and for each reporter the three that
define, call and answer it and one for each parameter. -/
def blocks (t : Troupe κ) : Nat := 1 + (t.reporters.map fun r => 3 + r.definition.arity).sum

section Acting
variable {t : Troupe κ} {name : String}

theorem turn_of_nobody (h : t.named? name = none) (a : Action κ) :
    t.turn name a = ⟨.refused (.unknownHandler (a.form name).text), [], []⟩ := by
  simp only [turn, h]

theorem turn_of_named {r : Reporter κ} (h : t.named? name = some r) (a : Action κ) :
    t.turn name a = (r.step a).1 := by
  simp only [turn, h]

/-- The troupe stays as it is if whoever has the name does. -/
theorem act_eq_self {a : Action κ}
    (h : ∀ r ∈ t.reporters, r.definition.name = name → (r.step a).2 = r) : t.act name a = t := by
  have hsame : t.reporters.map (fun r =>
      if r.definition.name = name then (r.step a).2 else r) = t.reporters := by
    refine (List.map_congr_left fun r hr => ?_).trans (List.map_id _)
    split
    · next hname => exact h r hr hname
    · rfl
  exact congrArg (Troupe.mk t.overlap t.queueLimit) hsame

end Acting
end Troupe

/-- The replies to an action: the one of its kind, or a refusal. -/
inductive Action.Suits : Action κ → Reply → Prop
  | accepted (c : Call κ) : Suits (.call c) .accepted
  | polled (armed : Bool) : Suits .poll (.polled armed)
  | value (index : Nat) (v : Option Value) : Suits (.read index) (.value v)
  | answered (v : Value) : Suits (.answer v) .answered
  | refused (a : Action κ) (f : Fault) : Suits a (.refused f)

theorem Troupe.suits_turn (t : Troupe κ) (name : String) (a : Action κ) :
    a.Suits (t.turn name a).reply := by
  cases h : t.named? name with
  | none => simpa only [turn, h] using .refused a _
  | some r =>
    simp only [turn, h]
    have hway := r.step_way a
    generalize r.step a = e at hway ⊢
    obtain ⟨⟨p, ds, lines⟩, r'⟩ := e
    change Reporter.Way r a p ds r' at hway
    cases hway with
    | misfit | full => exact .refused _ _
    | queued | superseding | taken => exact .accepted _
    | poll => exact .polled _
    | read => exact .value _ _
    | stray | last | next => exact .answered _

/-! ## Steps -/

/-- **Values are the same**: the same text or truth value, or numbers that are equal as
doubles. -/
inductive Value.Same : Value → Value → Prop
  | text (s : String) : Same (.text s) (.text s)
  | number {x y : Float} (h : (x == y) = true) : Same (.number x) (.number y)
  | boolean (b : Bool) : Same (.boolean b) (.boolean b)

theorem Value.beq_iff {v w : Value} : (v == w) = true ↔ v.Same w := by
  constructor
  · intro h
    cases v with
    | text s =>
      cases w with
      | text t =>
        obtain rfl : s = t := of_decide_eq_true h
        exact .text s
      | number | boolean => cases h
    | number x =>
      cases w with
      | number y => exact .number h
      | text | boolean => cases h
    | boolean a =>
      cases w with
      | boolean b =>
        obtain rfl : a = b := of_decide_eq_true h
        exact .boolean a
      | text | number => cases h
  · rintro (s | h | b)
    · exact decide_eq_true rfl
    · exact h
    · exact decide_eq_true rfl

namespace Step

/-- The action that a step asks for, and of whom.  A call without a tag is tagged by the
number of the step. -/
def action? (number : Nat) : Step → Option (String × Action String)
  | reload _ => none
  | call reporter args tag _ => some (nameOf reporter, .call ⟨args, tag.getD s!"step{number}"⟩)
  | poll reporter _ => some (nameOf reporter, .poll)
  | read reporter index _ => some (nameOf reporter, .read index)
  | answer reporter v => some (nameOf reporter, .answer v)

/-- **The replies that a step expects.**  A call is accepted, or else refused with a message
in which the expected text stands; a poll and a read tell what is expected, and the
parameter that is read is there. -/
def Expects : Step → Reply → Prop
  | call _ _ _ none, .accepted => True
  | call _ _ _ (some error), .refused f => error.toList <:+: f.message.toList
  | poll _ armed, .polled armed' => armed' = armed
  | read _ _ expected, .value (some v) => v.Same expected
  | answer _ _, .answered => True
  | _, _ => False

/-- **The step goes as it is meant to.**  `Goes number t step ds t'`: in the troupe `t` the
step, the one of this number, is replied to as it expects, answers the callers in `ds` with
their values, and leaves `t'`. -/
inductive Goes (number : Nat) (t : Troupe String) :
    Step → List (String × Value) → Troupe String → Prop
  | reload (spec : String) : Goes number t (reload spec) [] (t.define (.reporter spec))
  | acts {step : Step} {name : String} {a : Action String}
      (haction : step.action? number = some (name, a))
      (hexpects : step.Expects (t.turn name a).reply) :
      Goes number t step (t.turn name a).deliveries (t.act name a)

/-- **All the steps go as they are meant to**, the first of which has this number. -/
inductive GoAll : Nat → Troupe String → List Step → List (String × Value) → Troupe String → Prop
  | nil (number : Nat) (t : Troupe String) : GoAll number t [] [] t
  | cons {number : Nat} {t t' t'' : Troupe String} {step : Step} {steps : List Step}
      {ds ds' : List (String × Value)} (h : Goes number t step ds t')
      (hs : GoAll (number + 1) t' steps ds' t'') :
      GoAll number t (step :: steps) (ds ++ ds') t''

end Step

/-- What a scenario defines: the reporters that `body` lists, and then the predicates. -/
def Scenario.definitions (t : Scenario) (body : String) : List Definition :=
  (specifierLines body).map Definition.reporter ++ t.predicates.map Definition.predicate

/-- The troupe that these make up. -/
def Scenario.troupe (t : Scenario) (body : String) : Troupe String :=
  (t.definitions body).foldl Troupe.define
    ⟨t.overlap, t.queueLimit.getD Settings.default.queueLimit, []⟩

/-! ## The troupe of a session -/

/-- The reporters of a roster as a troupe. -/
def Roster.troupe (s : Roster κ) : Troupe κ := ⟨s.overlap, s.queueLimit, s.reporters⟩

namespace Roster

theorem names_troupe (s : Roster κ) : s.troupe.names = s.names := by
  rw [Roster.names, definitions, List.map_map]
  rfl

theorem troupe_register (s : Roster κ) (d : Definition) :
    (s.register d).troupe = s.troupe.define d := by
  rw [Troupe.define, names_troupe]
  by_cases hd : d.name ∈ s.names
  · rw [register_of_known hd, if_pos hd]
  · rw [register_of_new hd, if_neg hd]
    rfl

theorem troupe_registerAll (s : Roster κ) (ds : List Definition) :
    (s.registerAll ds).troupe = ds.foldl Troupe.define s.troupe := by
  induction ds generalizing s with
  | nil => rfl
  | cons d ds ih => rw [registerAll_cons, ih, troupe_register, List.foldl_cons]

theorem Coherent.troupe_put {s : Roster κ} (hs : s.Coherent) {id : Nat} {r : Reporter κ}
    (hr : s.reporters[id]? = some r) (a : Action κ) :
    (s.put id (r.step a).2).troupe = s.troupe.act r.definition.name a := by
  have hset : s.reporters.set id (r.step a).2 = s.reporters.map fun r' =>
      if r'.definition.name = r.definition.name then (r'.step a).2 else r' := by
    refine List.ext_getElem? fun j => ?_
    rw [List.getElem?_map]
    cases hj : s.reporters[j]? with
    | none =>
      have hle := List.getElem?_eq_none_iff.mp hj
      rw [Option.map_none, List.getElem?_eq_none_iff, List.length_set]
      exact hle
    | some r' =>
      rw [Option.map_some]
      by_cases hid : id = j
      · subst hid
        cases hr.symm.trans hj
        rw [if_pos rfl]
        exact List.getElem?_set_self (List.getElem?_eq_some_iff.mp hj).1
      · have hname : r'.definition.name ≠ r.definition.name :=
          fun hname => hid (hs.eq_of_name hj hr hname).symm
        rw [if_neg hname, List.getElem?_set_ne hid, hj]
  exact congrArg (Troupe.mk s.overlap s.queueLimit) hset

end Roster

namespace Session
variable {s : Session κ} (hs : s.Sound)
include hs

/-- **A block that is run by name** does what the troupe of the session does, and answers
what that replies.  Where the troupe has no value to read there is no block to run. -/
theorem Sound.invoke_eq_turn (name : String) (a : Action κ) :
    let e := s.invoke (a.form name).text a.args a.caller?
    let turn := s.roster.troupe.turn name a
    e.answer = turn.reply.outcome?.getD (.error (.unknownHandler (a.form name).text)) ∧
      e.deliveries = turn.deliveries ∧
      e.session.roster.troupe = s.roster.troupe.act name a := by
  intro e turn
  cases hnamed : s.roster.troupe.named? name with
  | none =>
    have hnobody : ∀ r ∈ s.roster.reporters, r.definition.name ≠ name := by
      simpa [Troupe.named?, Roster.troupe] using hnamed
    have he : e = s.refuse (.unknownHandler (a.form name).text) := by
      refine hs.invoke_nobody ?_ _ _
      intro d hd hname
      obtain ⟨r, hr, rfl⟩ := List.mem_map.mp hd
      exact absurd hname (hnobody r hr)
    have hact : s.roster.troupe.act name a = s.roster.troupe :=
      Troupe.act_eq_self fun r hr hname => absurd hname (hnobody r hr)
    rw [he, hact]
    simp only [turn, Troupe.turn_of_nobody hnamed]
    exact ⟨rfl, rfl, rfl⟩
  | some r =>
    have hr : r ∈ s.roster.reporters := List.mem_of_find?_eq_some hnamed
    obtain rfl : r.definition.name = name := by simpa using List.find?_some hnamed
    obtain ⟨id, hid⟩ := List.mem_iff_getElem?.mp hr
    by_cases hfits : a.Fits r.definition
    · obtain ⟨outcome, houtcome, he⟩ := hs.invoke_action hid hfits (a.request?_handler id)
      have he' : e = _ := he
      rw [he', ← hs.coherent.troupe_put hid]
      simp only [turn, Troupe.turn_of_named hnamed, houtcome]
      exact ⟨rfl, trivial, rfl⟩
    · -- the parameter that is read is not there, nor has anybody else the name
      have hnobody : ∀ d ∈ s.roster.definitions, d.name = r.definition.name → ¬ a.Fits d := by
        intro d hd hname
        obtain ⟨j, hj⟩ := List.mem_iff_getElem?.mp hd
        obtain ⟨r', hr', rfl⟩ := Roster.getElem?_definitions_eq_some.mp hj
        obtain rfl := hs.coherent.eq_of_name hr' hid hname
        cases hr'.symm.trans hid
        exact hfits
      have he : e = s.refuse (.unknownHandler (a.form r.definition.name).text) :=
        hs.invoke_nobody hnobody _ _
      cases a with
      | call | poll | answer => exact absurd trivial hfits
      | read index =>
        have hcells : r.cells.length ≤ index := by
          rw [(hs.wellFormed r hr).length_cells]
          exact Nat.le_of_not_lt hfits
        have hvalue : r.read index = none := by
          rw [Reporter.read, List.getElem?_eq_none hcells, Option.map_none]
        have hact : s.roster.troupe.act r.definition.name (.read index) = s.roster.troupe :=
          Troupe.act_eq_self fun _ _ _ => rfl
        rw [he, hact]
        simp only [turn, Troupe.turn_of_named hnamed, Reporter.step, hvalue]
        exact ⟨rfl, rfl, rfl⟩

end Session

end ReporterBlocks
