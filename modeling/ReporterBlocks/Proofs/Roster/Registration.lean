import ReporterBlocks.Proofs.Roster.Table

/-! # Sequences of registrations

`registerAll` registers definitions in turn and `answers` says of each whether it
was new.  New are those whose name is not known yet (`firstOfName`), and what a
sequence of registrations does is to append a fresh reporter for each of them
(`reporters_registerAll`).  A roster stays coherent, and a name that was found once
is found in the same place for ever (`lookup_registerAll`).
-/

namespace ReporterBlocks

/-- The definitions in `ds`, in order, that have a name which is neither in `known`
nor that of an earlier one. -/
def firstOfName (known : List String) : List Definition → List Definition
  | [] => []
  | d :: ds =>
    if d.name ∈ known then firstOfName known ds else d :: firstOfName (d.name :: known) ds

theorem firstOfName_congr {known known' : List String} (ds : List Definition)
    (h : ∀ name, name ∈ known ↔ name ∈ known') : firstOfName known ds = firstOfName known' ds := by
  induction ds generalizing known known' with
  | nil => rfl
  | cons d ds ih =>
    have hcons : ∀ name, name ∈ d.name :: known ↔ name ∈ d.name :: known' := by
      intro name
      rw [List.mem_cons, List.mem_cons, h name]
    simp only [firstOfName, h d.name, ih h, ih hcons]

theorem firstOfName_sublist (known : List String) (ds : List Definition) :
    (firstOfName known ds).Sublist ds := by
  induction ds generalizing known with
  | nil => exact .slnil
  | cons d ds ih =>
    rw [firstOfName]
    split
    · exact (ih known).cons d
    · exact (ih _).cons_cons d

/-- Their names are those that are asked for and not known. -/
theorem mem_names_firstOfName {known : List String} {ds : List Definition} {name : String} :
    name ∈ (firstOfName known ds).map Definition.name ↔
      name ∈ ds.map Definition.name ∧ name ∉ known := by
  induction ds generalizing known with
  | nil => simp [firstOfName]
  | cons d ds ih =>
    rw [firstOfName]
    split
    · next hd =>
      rw [ih, List.map_cons, List.mem_cons]
      refine and_congr_left fun hname => (or_iff_right ?_).symm
      rintro rfl
      exact hname hd
    · next hd =>
      rw [List.map_cons, List.mem_cons, ih, List.map_cons, List.mem_cons, List.mem_cons]
      by_cases hname : name = d.name
      · simp [hname, hd]
      · simp [hname]

theorem nodup_names_firstOfName (known : List String) (ds : List Definition) :
    ((firstOfName known ds).map Definition.name).Nodup := by
  induction ds generalizing known with
  | nil => exact List.nodup_nil
  | cons d ds ih =>
    rw [firstOfName]
    split
    · exact ih known
    · rw [List.map_cons, List.nodup_cons, mem_names_firstOfName]
      exact ⟨fun hd => hd.2 List.mem_cons_self, ih _⟩

theorem firstOfName_eq_nil {known : List String} {ds : List Definition}
    (hds : ∀ d ∈ ds, d.name ∈ known) : firstOfName known ds = [] := by
  refine List.eq_nil_iff_forall_not_mem.mpr fun d hd => ?_
  exact (mem_names_firstOfName.mp (List.mem_map_of_mem hd)).2
    (hds d ((firstOfName_sublist known ds).subset hd))

namespace Roster
variable {κ : Type}

/-- Registers a definition; nothing happens if its name is known. -/
def register (s : Roster κ) (d : Definition) : Roster κ := (s.register? d).getD s

def registerAll (s : Roster κ) (ds : List Definition) : Roster κ := ds.foldl register s

/-- Tells of each definition in turn whether registering it adds a reporter. -/
def answers (s : Roster κ) : List Definition → List Bool
  | [] => []
  | d :: ds => (s.register? d).isSome :: answers (s.register d) ds

/-! ## One registration -/

theorem register?_of_known {s : Roster κ} {d : Definition} (hd : d.name ∈ s.names) :
    s.register? d = none := by
  cases hlook : s.lookup d.name with
  | none => exact absurd hd ((lookup_eq_none_iff s d.name).mp hlook)
  | some id => simp [register?, hlook]

theorem register?_of_new {s : Roster κ} {d : Definition} (hd : d.name ∉ s.names) :
    s.register? d = some { s with
      reporters := s.reporters ++ [.fresh d s.overlap s.queueLimit]
      rows := s.rows ++ d.rows
      handlers := s.handlers ++ handlersOf s.size d } := by
  simp [register?, (lookup_eq_none_iff s d.name).mpr hd]

theorem register_of_known {s : Roster κ} {d : Definition} (hd : d.name ∈ s.names) :
    s.register d = s := by
  rw [register, register?_of_known hd, Option.getD_none]

theorem register_of_new {s : Roster κ} {d : Definition} (hd : d.name ∉ s.names) :
    s.register d = { s with
      reporters := s.reporters ++ [.fresh d s.overlap s.queueLimit]
      rows := s.rows ++ d.rows
      handlers := s.handlers ++ handlersOf s.size d } := by
  rw [register, register?_of_new hd, Option.getD_some]

theorem isSome_register? (s : Roster κ) (d : Definition) :
    (s.register? d).isSome = decide (d.name ∉ s.names) := by
  by_cases hd : d.name ∈ s.names
  · simp [register?_of_known hd, hd]
  · simp [register?_of_new hd, hd]

theorem register_overlap (s : Roster κ) (d : Definition) :
    (s.register d).overlap = s.overlap := by
  by_cases hd : d.name ∈ s.names
  · rw [register_of_known hd]
  · rw [register_of_new hd]

theorem register_queueLimit (s : Roster κ) (d : Definition) :
    (s.register d).queueLimit = s.queueLimit := by
  by_cases hd : d.name ∈ s.names
  · rw [register_of_known hd]
  · rw [register_of_new hd]

/-- Afterwards the name is known, and no other one that was not before. -/
theorem mem_names_register (s : Roster κ) (d : Definition) (name : String) :
    name ∈ (s.register d).names ↔ name = d.name ∨ name ∈ s.names := by
  by_cases hd : d.name ∈ s.names
  · rw [register_of_known hd]
    exact ⟨Or.inr, fun h => h.elim (fun he => he ▸ hd) fun h => h⟩
  · rw [register_of_new hd]
    simp [names, definitions, Reporter.fresh, or_comm]

theorem firstOfName_register (s : Roster κ) (d : Definition) (ds : List Definition) :
    firstOfName (s.register d).names ds = firstOfName (d.name :: s.names) ds :=
  firstOfName_congr ds fun name => by rw [mem_names_register, List.mem_cons]

/-- **A registration keeps a roster coherent.** -/
theorem Coherent.register {s : Roster κ} (hs : s.Coherent) (d : Definition) :
    (s.register d).Coherent := by
  by_cases hd : d.name ∈ s.names
  · rw [register_of_known hd]
    exact hs
  · rw [register_of_new hd]
    have hgrown (r : List (Reporter κ)) : (r ++ [Reporter.fresh d s.overlap s.queueLimit]).map
        Reporter.definition = r.map Reporter.definition ++ [d] := by
      simp [Reporter.fresh]
    constructor
    · simp only [definitions, hgrown, List.flatMap_append, hs.rows]
      simp
    · simp only [definitions, hgrown, bindings_append, hs.handlers]
      simp [bindings, size]
    · simp only [Roster.names, definitions, hgrown, List.map_append]
      refine List.nodup_append.mpr ⟨hs.names, List.nodup_singleton _, ?_⟩
      intro name hname name' hname' he
      rw [List.map_singleton, List.mem_singleton] at hname'
      exact hd (hname' ▸ he ▸ hname)

/-! ## Many registrations -/

@[simp] theorem registerAll_nil (s : Roster κ) : s.registerAll [] = s := rfl

@[simp] theorem registerAll_cons (s : Roster κ) (d : Definition) (ds : List Definition) :
    s.registerAll (d :: ds) = (s.register d).registerAll ds := rfl

theorem registerAll_append (s : Roster κ) (ds ds' : List Definition) :
    s.registerAll (ds ++ ds') = (s.registerAll ds).registerAll ds' :=
  List.foldl_append

theorem Coherent.registerAll {s : Roster κ} (hs : s.Coherent) (ds : List Definition) :
    (s.registerAll ds).Coherent := by
  induction ds generalizing s with
  | nil => exact hs
  | cons d ds ih => exact ih (hs.register d)

theorem registerAll_overlap (s : Roster κ) (ds : List Definition) :
    (s.registerAll ds).overlap = s.overlap := by
  induction ds generalizing s with
  | nil => rfl
  | cons d ds ih => rw [registerAll_cons, ih, register_overlap]

theorem registerAll_queueLimit (s : Roster κ) (ds : List Definition) :
    (s.registerAll ds).queueLimit = s.queueLimit := by
  induction ds generalizing s with
  | nil => rfl
  | cons d ds ih => rw [registerAll_cons, ih, register_queueLimit]

/-- **What registrations add**: a fresh reporter for each definition that was new. -/
theorem reporters_registerAll (s : Roster κ) (ds : List Definition) :
    (s.registerAll ds).reporters =
      s.reporters ++ (firstOfName s.names ds).map (.fresh · s.overlap s.queueLimit) := by
  induction ds generalizing s with
  | nil => simp [firstOfName]
  | cons d ds ih =>
    rw [registerAll_cons, ih, register_overlap, register_queueLimit, firstOfName]
    by_cases hd : d.name ∈ s.names
    · rw [register_of_known hd, if_pos hd]
    · rw [firstOfName_register, register_of_new hd, if_neg hd, List.map_cons, List.append_assoc]
      rfl

theorem definitions_registerAll (s : Roster κ) (ds : List Definition) :
    (s.registerAll ds).definitions = s.definitions ++ firstOfName s.names ds := by
  rw [definitions, reporters_registerAll, List.map_append, List.map_map]
  exact congrArg (s.definitions ++ ·) (List.map_id _)

theorem rows_register (s : Roster κ) (d : Definition) :
    (s.register d).rows = s.rows ++ (firstOfName s.names [d]).flatMap Definition.rows := by
  by_cases hd : d.name ∈ s.names
  · simp [register_of_known hd, firstOfName, hd]
  · simp [register_of_new hd, firstOfName, hd]

/-- New definitions behind others are new to the roster that the others leave. -/
theorem firstOfName_append (s : Roster κ) (ds ds' : List Definition) :
    firstOfName s.names (ds ++ ds') =
      firstOfName s.names ds ++ firstOfName (s.registerAll ds).names ds' := by
  have hall := definitions_registerAll s (ds ++ ds')
  rw [registerAll_append, definitions_registerAll (s.registerAll ds), definitions_registerAll,
    List.append_assoc] at hall
  exact (List.append_cancel_left hall).symm

theorem rows_registerAll (s : Roster κ) (ds : List Definition) :
    (s.registerAll ds).rows = s.rows ++ (firstOfName s.names ds).flatMap Definition.rows := by
  induction ds generalizing s with
  | nil => simp [firstOfName]
  | cons d ds ih =>
    have hsplit : firstOfName s.names (d :: ds) =
        firstOfName s.names [d] ++ firstOfName (s.register d).names ds :=
      firstOfName_append s [d] ds
    rw [registerAll_cons, ih, rows_register, hsplit, List.flatMap_append, List.append_assoc]

/-- A definition is new exactly if its name was not known and none before it has
it. -/
theorem getElem?_answers (s : Roster κ) (ds : List Definition) (k : Nat) :
    (s.answers ds)[k]? = ds[k]?.map fun d =>
      decide (d.name ∉ s.names ∧ d.name ∉ (ds.take k).map Definition.name) := by
  induction ds generalizing s k with
  | nil => rfl
  | cons d ds ih =>
    cases k with
    | zero => simp [answers, isSome_register?]
    | succ k =>
      simp only [answers, List.getElem?_cons_succ, ih, List.take_succ_cons, List.map_cons,
        List.mem_cons, mem_names_register]
      refine congrArg (Option.map · ds[k]?) (funext fun d' => decide_eq_decide.mpr ?_)
      tauto

/-- The definitions that are new are those of which it is told. -/
theorem firstOfName_eq_filter (s : Roster κ) (ds : List Definition) :
    firstOfName s.names ds = ((ds.zip (s.answers ds)).filter Prod.snd).map Prod.fst := by
  induction ds generalizing s with
  | nil => rfl
  | cons d ds ih =>
    rw [firstOfName, answers, List.zip_cons_cons, List.filter_cons, isSome_register?]
    by_cases hd : d.name ∈ s.names
    · have hrest := ih (s.register d)
      rw [register_of_known hd] at hrest ⊢
      simpa [hd] using hrest
    · have hrest := ih (s.register d)
      rw [firstOfName_register] at hrest
      simpa [hd] using hrest

/-- **A name that was found once is found in the same place for ever.** -/
theorem lookup_registerAll {s : Roster κ} (hs : s.Coherent) {name : String} {id : Nat}
    (h : s.lookup name = some id) (ds : List Definition) :
    (s.registerAll ds).lookup name = some id := by
  obtain ⟨d, hd, hname⟩ := (hs.lookup_eq_some_iff name id).mp h
  refine ((hs.registerAll ds).lookup_eq_some_iff name id).mpr ⟨d, ?_, hname⟩
  rw [definitions_registerAll]
  exact (List.getElem?_append_left (List.getElem?_eq_some_iff.mp hd).1).trans hd

end Roster
end ReporterBlocks
