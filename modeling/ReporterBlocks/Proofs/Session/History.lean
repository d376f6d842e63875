import ReporterBlocks.Proofs.Session.Step

/-! # The history of a session

A run of a session is a sequence of moments: the session that an operation found, the
operation and its effect (`history`).  What a run answers and delivers is read off its
history (`answer_run`, `deliveries_run`), and so is what concerns one reporter: the
actions that were performed on it (`actionsOn`) and the effects that performed them
(`effectsOn`).

A run keeps the settings and a sound session stays sound, so that every moment of a run
is one of a sound session (`Sound.of_mem_history`).
-/

namespace ReporterBlocks.Session
variable {κ : Type}

/-- One operation in a run, with the session that it found and its effect. -/
structure Moment (κ : Type) where
  before : Session κ
  operation : Operation κ
  effect : Effect κ Response

/-- The action that the moment performs on the reporter `i`. -/
def Moment.actionOn (m : Moment κ) (i : Nat) : Option (Action κ) :=
  m.before.actionOn i m.operation

/-- The definitions that the moment asks to register. -/
def Moment.asked (m : Moment κ) : List Definition := m.before.asked m.operation

/-- The moments of a run, in order. -/
def history (s : Session κ) : List (Operation κ) → List (Moment κ)
  | [] => []
  | o :: os => ⟨s, o, s.step o⟩ :: history (s.step o).session os

/-- The session that a run leaves. -/
def after (s : Session κ) (os : List (Operation κ)) : Session κ := (s.run os).session

/-- The actions that a run performs on the reporter `i`, in order. -/
def actionsOn (s : Session κ) (i : Nat) (os : List (Operation κ)) : List (Action κ) :=
  (s.history os).filterMap fun m => m.actionOn i

/-- The effects of the operations that act on the reporter `i`, in order. -/
def effectsOn (s : Session κ) (i : Nat) (os : List (Operation κ)) : List (Effect κ Response) :=
  (s.history os).filterMap fun m => (m.actionOn i).map fun _ => m.effect

section Growth
variable (s : Session κ) (i : Nat) (o : Operation κ) (os : List (Operation κ))

@[simp] theorem after_cons : s.after (o :: os) = (s.step o).session.after os := rfl

theorem after_append (os' : List (Operation κ)) :
    s.after (os ++ os') = (s.after os).after os' := by
  induction os generalizing s with
  | nil => rfl
  | cons o os ih => exact ih (s.step o).session

@[simp] theorem history_cons :
    s.history (o :: os) = ⟨s, o, s.step o⟩ :: (s.step o).session.history os := rfl

theorem history_append (os' : List (Operation κ)) :
    s.history (os ++ os') = s.history os ++ (s.after os).history os' := by
  induction os generalizing s with
  | nil => rfl
  | cons o os ih => exact congrArg (⟨s, o, s.step o⟩ :: ·) (ih (s.step o).session)

theorem operation_mem_of_mem_history {m : Moment κ} (hm : m ∈ s.history os) :
    m.operation ∈ os := by
  induction os generalizing s with
  | nil => cases hm
  | cons o os ih =>
    rcases List.mem_cons.mp hm with rfl | hm
    · exact List.mem_cons_self
    · exact List.mem_cons_of_mem o (ih (s.step o).session hm)

theorem answer_run : (s.run os).answer = (s.history os).map fun m => m.effect.answer := by
  induction os generalizing s with
  | nil => rfl
  | cons o os ih => exact congrArg ((s.step o).answer :: ·) (ih (s.step o).session)

theorem deliveries_run :
    (s.run os).deliveries = (s.history os).flatMap fun m => m.effect.deliveries := by
  induction os generalizing s with
  | nil => rfl
  | cons o os ih => exact congrArg ((s.step o).deliveries ++ ·) (ih (s.step o).session)

variable {s i o} in
theorem actionsOn_cons_of_none (h : s.actionOn i o = none) :
    s.actionsOn i (o :: os) = (s.step o).session.actionsOn i os := by
  simp [actionsOn, Moment.actionOn, h]

variable {s i o} in
theorem actionsOn_cons_of_some {a : Action κ} (h : s.actionOn i o = some a) :
    s.actionsOn i (o :: os) = a :: (s.step o).session.actionsOn i os := by
  simp [actionsOn, Moment.actionOn, h]

variable {s i o} in
theorem effectsOn_cons_of_none (h : s.actionOn i o = none) :
    s.effectsOn i (o :: os) = (s.step o).session.effectsOn i os := by
  simp [effectsOn, Moment.actionOn, h]

variable {s i o} in
theorem effectsOn_cons_of_some {a : Action κ} (h : s.actionOn i o = some a) :
    s.effectsOn i (o :: os) = s.step o :: (s.step o).session.effectsOn i os := by
  simp [effectsOn, Moment.actionOn, h]

end Growth

/-! ## Facts about every run -/

section Facts
variable {s : Session κ} (hs : s.Sound)
include hs

theorem Sound.step_settings (o : Operation κ) : (s.step o).session.settings = s.settings := by
  have hway := hs.step_way o
  generalize s.step o = e at hway ⊢
  cases hway with
  | registers _ _ _ h => exact h.settings
  | acts | polls => rfl

theorem Sound.after (os : List (Operation κ)) : (s.after os).Sound := by
  induction os generalizing s with
  | nil => exact hs
  | cons o os ih => exact ih (hs.step o)

theorem Sound.after_settings (os : List (Operation κ)) : (s.after os).settings = s.settings := by
  induction os generalizing s with
  | nil => rfl
  | cons o os ih => exact (ih (hs.step o)).trans (hs.step_settings o)

/-- **Each moment of a run is a step of a sound session.** -/
theorem Sound.of_mem_history {os : List (Operation κ)} {m : Moment κ} (hm : m ∈ s.history os) :
    m.before.Sound ∧ m.effect = m.before.step m.operation := by
  induction os generalizing s with
  | nil => cases hm
  | cons o os ih =>
    rcases List.mem_cons.mp hm with rfl | hm
    · exact ⟨hs, rfl⟩
    · exact ih (hs.step o) hm

end Facts
end ReporterBlocks.Session
