import Mathlib.Data.List.Nodup
import ReporterBlocks.Proofs.Roster.HandlerName
import ReporterBlocks.Session.Roster

/-! # The table of blocks and the handlers

A roster keeps three things about its reporters: the reporters themselves, the rows
of their blocks, and the handlers by name.  It is `Coherent` if the rows and the
handlers are those of its definitions and no two definitions have one name.

In a coherent roster no two rows have one handler name, so the first of two bindings
never hides a second (`Coherent.handlerNames_nodup`), and the handler of a name is
what `Bound` says: for each block of each definition one, and for no other text any
(`Coherent.handler?_eq_some_iff`).
-/

namespace ReporterBlocks

/-- Where no key stands twice, looking one up finds every pair. -/
theorem lookup_eq_some_iff_mem {β : Type} {l : List (String × β)} (hl : (l.map Prod.fst).Nodup)
    (k : String) (b : β) : l.lookup k = some b ↔ (k, b) ∈ l := by
  induction l with
  | nil => simp
  | cons p l ih =>
    obtain ⟨k', b'⟩ := p
    rw [List.map_cons, List.nodup_cons] at hl
    rw [List.lookup_cons, List.mem_cons]
    by_cases hk : k = k'
    · subst k'
      have hfresh : (k, b) ∉ l := fun hmem => hl.1 (List.mem_map.mpr ⟨_, hmem, rfl⟩)
      simp [hfresh, eq_comm]
    · have hbeq : (k == k') = false := beq_false_of_ne hk
      simp [hbeq, hk, ih hl.2]

/-- The reporter whose block the handler belongs to. -/
def Handler.reporter? : Handler → Option Nat
  | .reload => none
  | .poll id | .call id | .answer id | .read id _ => some id

namespace Roster
variable {κ : Type}

/-- The definitions of the reporters, in order. -/
def definitions (s : Roster κ) : List Definition := s.reporters.map Reporter.definition

/-- The names under which the reporters are known. -/
def names (s : Roster κ) : List String := s.definitions.map Definition.name

@[simp] theorem length_definitions (s : Roster κ) : s.definitions.length = s.size :=
  List.length_map _

theorem getElem?_definitions_eq_some {s : Roster κ} {id : Nat} {d : Definition} :
    s.definitions[id]? = some d ↔ ∃ r, s.reporters[id]? = some r ∧ r.definition = d := by
  rw [definitions, List.getElem?_map, Option.map_eq_some_iff]

/-- A reporter in the place of one with the same definition. -/
theorem definitions_put {s : Roster κ} {id : Nat} {r r' : Reporter κ}
    (hr : s.reporters[id]? = some r) (hdefinition : r'.definition = r.definition) :
    (s.put id r').definitions = s.definitions := by
  have hsame : s.definitions[id]? = some r'.definition := by
    rw [definitions, List.getElem?_map, hr, hdefinition, Option.map_some]
  obtain ⟨hid, hget⟩ := List.getElem?_eq_some_iff.mp hsame
  rw [definitions, put, List.map_set, ← hget]
  exact List.set_getElem_self hid

/-- **What the names of handlers stand for** where `ds` are registered. -/
inductive Bound (ds : List Definition) : String → Handler → Prop
  | reload : Bound ds "parseReporter" .reload
  | poll {id : Nat} {d : Definition} (hd : ds[id]? = some d) :
      Bound ds ("defr_" ++ d.name) (.poll id)
  | call {id : Nat} {d : Definition} (hd : ds[id]? = some d) :
      Bound ds ("callr_" ++ d.name) (.call id)
  | answer {id : Nat} {d : Definition} (hd : ds[id]? = some d) :
      Bound ds ("retr_" ++ d.name) (.answer id)
  | read {id index : Nat} {d : Definition} (hd : ds[id]? = some d) (hindex : index < d.arity) :
      Bound ds ("argr_" ++ d.name ++ "_" ++ toString index) (.read id index)

/-- The numbers that handlers stand for are those of definitions. -/
theorem Bound.exists_definition {ds : List Definition} {name : String} {h : Handler} {id : Nat}
    (hb : Bound ds name h) (hid : h.reporter? = some id) : ∃ d, ds[id]? = some d := by
  cases hb with
  | reload => cases hid
  | poll hd | call hd | answer hd | read hd =>
    cases hid
    exact ⟨_, hd⟩

/-- The handlers of definitions numbered from `start` on. -/
def bindings (start : Nat) : List Definition → List (String × Handler)
  | [] => []
  | d :: ds => handlersOf start d ++ bindings (start + 1) ds

theorem bindings_append (start : Nat) (ds ds' : List Definition) :
    bindings start (ds ++ ds') = bindings start ds ++ bindings (start + ds.length) ds' := by
  induction ds generalizing start with
  | nil => rfl
  | cons d ds ih =>
    rw [List.cons_append, bindings, ih, bindings, List.append_assoc, List.length_cons,
      Nat.add_assoc, Nat.add_comm 1]

theorem mem_bindings {start : Nat} {ds : List Definition} {b : String × Handler} :
    b ∈ bindings start ds ↔ ∃ id d, ds[id]? = some d ∧ b ∈ handlersOf (start + id) d := by
  induction ds generalizing start with
  | nil => simp [bindings]
  | cons d ds ih =>
    rw [bindings, List.mem_append, ih]
    constructor
    · rintro (hb | ⟨id, d', hd, hb⟩)
      · exact ⟨0, d, rfl, hb⟩
      · exact ⟨id + 1, d', hd, by rwa [Nat.add_assoc, Nat.add_comm 1] at hb⟩
    · rintro ⟨id, d', hd, hb⟩
      cases id with
      | zero =>
        cases hd
        exact Or.inl hb
      | succ id =>
        exact Or.inr ⟨id, d', hd, by rwa [Nat.add_assoc, Nat.add_comm 1]⟩

/-- A definition binds the names of its blocks. -/
theorem mem_handlersOf {id : Nat} {d : Definition} {name : String} {h : Handler} :
    (name, h) ∈ handlersOf id d ↔
      (name = HandlerName.poll d.name ∧ h = .poll id) ∨
      (name = HandlerName.call d.name ∧ h = .call id) ∨
      (name = HandlerName.answer d.name ∧ h = .answer id) ∨
      ∃ index < d.arity, name = HandlerName.read d.name index ∧ h = .read id index := by
  simp only [handlersOf, List.mem_cons, Prod.mk.injEq, List.mem_map, List.mem_range]
  grind

theorem mem_bindings_iff_bound {ds : List Definition} {name : String} {h : Handler} :
    (name, h) ∈ (HandlerName.reload, Handler.reload) :: bindings 0 ds ↔ Bound ds name h := by
  rw [List.mem_cons, mem_bindings]
  constructor
  · rintro (hb | ⟨id, d, hd, hb⟩)
    · cases hb
      exact .reload
    · rw [Nat.zero_add, mem_handlersOf] at hb
      rcases hb with ⟨rfl, rfl⟩ | ⟨rfl, rfl⟩ | ⟨rfl, rfl⟩ | ⟨index, hindex, rfl, rfl⟩
      · exact .poll hd
      · exact .call hd
      · exact .answer hd
      · exact .read hd hindex
  · have hown {id : Nat} {d : Definition} {b : String × Handler} (hd : ds[id]? = some d)
        (hmem : b ∈ handlersOf id d) :
        b = (HandlerName.reload, .reload) ∨
          ∃ id d, ds[id]? = some d ∧ b ∈ handlersOf (0 + id) d :=
      Or.inr ⟨id, d, hd, by rwa [Nat.zero_add]⟩
    intro hb
    cases hb with
    | reload => exact Or.inl rfl
    | poll hd => exact hown hd (mem_handlersOf.mpr (.inl ⟨rfl, rfl⟩))
    | call hd => exact hown hd (mem_handlersOf.mpr (.inr (.inl ⟨rfl, rfl⟩)))
    | answer hd => exact hown hd (mem_handlersOf.mpr (.inr (.inr (.inl ⟨rfl, rfl⟩))))
    | read hd hindex =>
      exact hown hd (mem_handlersOf.mpr (.inr (.inr (.inr ⟨_, hindex, rfl, rfl⟩))))

/-! ## No two names are one -/

/-- What the handler names of a definition are made of. -/
def forms (d : Definition) : List HandlerForm :=
  .poll d.name :: .call d.name :: .answer d.name ::
    (List.range d.arity).map (.read d.name)

theorem map_fst_handlersOf (id : Nat) (d : Definition) :
    (handlersOf id d).map Prod.fst = (forms d).map HandlerForm.text := by
  simp [handlersOf, forms, HandlerForm.text]

theorem map_handler_rows (d : Definition) :
    d.rows.map Row.handler = (forms d).map HandlerForm.text := by
  have hreads : (d.parameters.mapIdx d.readRow).map Row.handler =
      ((List.range d.arity).map (HandlerForm.read d.name)).map HandlerForm.text :=
    List.ext_getElem (by simp [Definition.arity])
      (fun _ _ _ => by simp [Definition.readRow, HandlerForm.text])
  rw [Definition.rows, forms, List.map_cons, List.map_cons, List.map_cons, hreads]
  rfl

/-- The safe name that a form is made with. -/
theorem name_of_mem_forms {d : Definition} {f : HandlerForm} (hf : f ∈ forms d) :
    f = .poll d.name ∨ f = .call d.name ∨ f = .answer d.name ∨
      ∃ index, f = .read d.name index := by
  simp only [forms, List.mem_cons, List.mem_map] at hf
  grind

theorem forms_nodup (d : Definition) : (forms d).Nodup := by
  have hreads : ((List.range d.arity).map (HandlerForm.read d.name)).Nodup :=
    List.nodup_range.map fun _ _ h => (HandlerForm.read.inj h).2
  simp [forms, hreads]

/-- Definitions of different names have no form in common. -/
theorem forms_disjoint {d d' : Definition} (hname : d.name ≠ d'.name) :
    List.Disjoint (forms d) (forms d') := by
  intro f hf hf'
  rcases name_of_mem_forms hf with rfl | rfl | rfl | ⟨index, rfl⟩ <;>
    rcases name_of_mem_forms hf' with h | h | h | ⟨index', h⟩ <;>
    simp_all

/-- **No two of the names are one**, if no two definitions have one name. -/
theorem forms_flatMap_nodup {ds : List Definition} (hds : (ds.map Definition.name).Nodup) :
    (HandlerForm.reload :: ds.flatMap forms).Nodup := by
  refine List.nodup_cons.mpr ⟨?_, List.nodup_flatMap.mpr ⟨fun d _ => forms_nodup d, ?_⟩⟩
  · intro hmem
    obtain ⟨d, _, hf⟩ := List.mem_flatMap.mp hmem
    rcases name_of_mem_forms hf with h | h | h | ⟨_, h⟩ <;> cases h
  · exact (List.pairwise_map.mp hds).imp forms_disjoint

theorem map_fst_bindings (start : Nat) (ds : List Definition) :
    (bindings start ds).map Prod.fst = (ds.flatMap forms).map HandlerForm.text := by
  induction ds generalizing start with
  | nil => rfl
  | cons d ds ih =>
    rw [bindings, List.map_append, map_fst_handlersOf, ih, List.flatMap_cons, List.map_append]

/-! ## Coherence -/

/-- The rows and the handlers of a roster are those of its definitions. -/
structure Coherent (s : Roster κ) : Prop where
  rows : s.rows = Row.entry :: s.definitions.flatMap Definition.rows
  handlers : s.handlers = (HandlerName.reload, .reload) :: bindings 0 s.definitions
  names : s.names.Nodup

section Coherence
variable {s : Roster κ} (hs : s.Coherent)
include hs

theorem Coherent.map_fst_handlers :
    s.handlers.map Prod.fst =
      (HandlerForm.reload :: s.definitions.flatMap forms).map HandlerForm.text := by
  rw [hs.handlers, List.map_cons, map_fst_bindings]
  rfl

/-- The rows have the handlers' names, in their order. -/
theorem Coherent.map_handler_rows : s.rows.map Row.handler = s.handlers.map Prod.fst := by
  rw [hs.map_fst_handlers, hs.rows, List.map_cons, List.map_cons, List.map_flatMap,
    List.map_flatMap]
  simp only [Roster.map_handler_rows]
  rfl

/-- **No handler hides another.** -/
theorem Coherent.handlerNames_nodup : (s.handlers.map Prod.fst).Nodup := by
  rw [hs.map_fst_handlers]
  exact (forms_flatMap_nodup hs.names).map HandlerForm.text_injective

/-- **The handler of a name** is the one that the definitions bind to it. -/
theorem Coherent.handler?_eq_some_iff (name : String) (h : Handler) :
    s.handler? name = some h ↔ Bound s.definitions name h := by
  rw [handler?, lookup_eq_some_iff_mem hs.handlerNames_nodup, hs.handlers,
    mem_bindings_iff_bound]

/-- **The rows of a definition** stand for what is done to its reporter, in their order. -/
theorem Coherent.map_handler?_rows {id : Nat} {d : Definition}
    (hd : s.definitions[id]? = some d) :
    d.rows.map (fun row => s.handler? row.handler) =
      some (.poll id) :: some (.call id) :: some (.answer id) ::
        (List.range d.arity).map fun index => some (.read id index) := by
  have hhandler {name : String} {h : Handler} (hb : Bound s.definitions name h) :
      s.handler? name = some h := (hs.handler?_eq_some_iff name h).mpr hb
  have hreads : (d.parameters.mapIdx d.readRow).map (fun row => s.handler? row.handler) =
      (List.range d.arity).map fun index => some (.read id index) := by
    refine List.ext_getElem (by simp [Definition.arity]) ?_
    intro index hindex _
    rw [List.length_map, List.length_mapIdx] at hindex
    rw [List.getElem_map, List.getElem_mapIdx, List.getElem_map, List.getElem_range]
    exact hhandler (.read hd hindex)
  rw [Definition.rows, List.map_cons, List.map_cons, List.map_cons, hreads]
  exact congrArg₂ _ (hhandler (.poll hd))
    (congrArg₂ _ (hhandler (.call hd)) (congrArg (· :: _) (hhandler (.answer hd))))

/-- A name stands for nothing exactly if no row of the table has it. -/
theorem Coherent.handler?_eq_none_iff (name : String) :
    s.handler? name = none ↔ name ∉ s.rows.map Row.handler := by
  rw [hs.map_handler_rows, handler?, List.lookup_eq_none_iff, List.mem_map, not_exists]
  refine forall_congr' fun p => ?_
  rw [not_and, bne_iff_ne, ne_comm]

theorem Coherent.handler?_eq_reload_iff (name : String) :
    s.handler? name = some .reload ↔ name = HandlerName.reload := by
  rw [hs.handler?_eq_some_iff]
  constructor
  · intro hb
    cases hb
    rfl
  · rintro rfl
    exact .reload

theorem Coherent.handler?_eq_call_iff (name : String) (id : Nat) :
    s.handler? name = some (.call id) ↔
      ∃ r, s.reporters[id]? = some r ∧ name = HandlerName.call r.definition.name := by
  rw [hs.handler?_eq_some_iff]
  constructor
  · intro hb
    cases hb with
    | call hd =>
      obtain ⟨r, hr, rfl⟩ := getElem?_definitions_eq_some.mp hd
      exact ⟨r, hr, rfl⟩
  · rintro ⟨r, hr, rfl⟩
    exact .call (getElem?_definitions_eq_some.mpr ⟨r, hr, rfl⟩)

theorem Coherent.handler?_eq_answer_iff (name : String) (id : Nat) :
    s.handler? name = some (.answer id) ↔
      ∃ r, s.reporters[id]? = some r ∧ name = HandlerName.answer r.definition.name := by
  rw [hs.handler?_eq_some_iff]
  constructor
  · intro hb
    cases hb with
    | answer hd =>
      obtain ⟨r, hr, rfl⟩ := getElem?_definitions_eq_some.mp hd
      exact ⟨r, hr, rfl⟩
  · rintro ⟨r, hr, rfl⟩
    exact .answer (getElem?_definitions_eq_some.mpr ⟨r, hr, rfl⟩)

/-- Every handler that belongs to a reporter belongs to one that is there. -/
theorem Coherent.exists_reporter {name : String} {h : Handler} {id : Nat}
    (hh : s.handler? name = some h) (hid : h.reporter? = some id) :
    ∃ r, s.reporters[id]? = some r := by
  obtain ⟨d, hd⟩ := ((hs.handler?_eq_some_iff name h).mp hh).exists_definition hid
  obtain ⟨r, hr, -⟩ := getElem?_definitions_eq_some.mp hd
  exact ⟨r, hr⟩

/-- Every handler that reads a parameter reads one that the reporter has. -/
theorem Coherent.index_lt_arity {name : String} {id index : Nat} {r : Reporter κ}
    (hh : s.handler? name = some (.read id index)) (hr : s.reporters[id]? = some r) :
    index < r.definition.arity := by
  have hb := (hs.handler?_eq_some_iff name _).mp hh
  cases hb with
  | read hd hindex =>
    rw [definitions, List.getElem?_map, hr] at hd
    cases hd
    exact hindex

/-- **A reporter is looked up by the name of its definition.** -/
theorem Coherent.lookup_eq_some_iff (name : String) (id : Nat) :
    s.lookup name = some id ↔ ∃ d, s.definitions[id]? = some d ∧ d.name = name := by
  rw [lookup, List.findIdx?_eq_some_iff_getElem]
  constructor
  · rintro ⟨hid, hname, -⟩
    exact ⟨s.reporters[id].definition, by simp [definitions, hid], of_decide_eq_true hname⟩
  · rintro ⟨d, hd, hname⟩
    obtain ⟨hid, hd⟩ := List.getElem?_eq_some_iff.mp hd
    have hid' : id < s.reporters.length := by simpa [definitions] using hid
    have hget : s.reporters[id].definition = d := by simpa [definitions] using hd
    refine ⟨hid', by simp [hget, hname], ?_⟩
    -- the look-up takes the first of that name; names are distinct, so none is before it
    intro j hj hjname
    have hsame : s.reporters[j].definition.name = s.reporters[id].definition.name := by
      rw [of_decide_eq_true hjname, hget, hname]
    have hdistinct := List.pairwise_map.mp (List.pairwise_map.mp hs.names)
    exact List.pairwise_iff_getElem.mp hdistinct j id (Nat.lt_trans hj hid') hid' hj hsame

/-- Among reporters of different names one is the only one of its name. -/
theorem Coherent.eq_of_name {i j : Nat} {r r' : Reporter κ} (hi : s.reporters[i]? = some r)
    (hj : s.reporters[j]? = some r') (hname : r.definition.name = r'.definition.name) :
    i = j := by
  have hlook : ∀ k r₀, s.reporters[k]? = some r₀ → s.lookup r₀.definition.name = some k := by
    intro k r₀ hk
    refine (hs.lookup_eq_some_iff _ k).mpr ⟨r₀.definition, ?_, rfl⟩
    exact getElem?_definitions_eq_some.mpr ⟨r₀, hk, rfl⟩
  have hfirst := hlook i r hi
  rw [hname, hlook j r' hj] at hfirst
  exact (Option.some.inj hfirst).symm

end Coherence

/-- A name is not found where no definition has it. -/
theorem lookup_eq_none_iff (s : Roster κ) (name : String) :
    s.lookup name = none ↔ name ∉ s.names := by
  simp [lookup, names, definitions, List.findIdx?_eq_none_iff]

theorem empty_coherent (o : Overlap) (limit : Nat) : (empty o limit : Roster κ).Coherent where
  rows := rfl
  handlers := rfl
  names := List.nodup_nil

/-- Coherence is about the definitions, the rows and the handlers only. -/
theorem Coherent.congr {s s' : Roster κ} (hs : s.Coherent)
    (hdefinitions : s'.definitions = s.definitions) (hrows : s'.rows = s.rows)
    (hhandlers : s'.handlers = s.handlers) : s'.Coherent where
  rows := by rw [hrows, hdefinitions, hs.rows]
  handlers := by rw [hhandlers, hdefinitions, hs.handlers]
  names := by
    rw [Roster.names, hdefinitions]
    exact hs.names

end Roster
end ReporterBlocks
