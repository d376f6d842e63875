import Mathlib.Data.List.MinMax
import ReporterBlocks.Definition.Basic
import ReporterBlocks.Proofs.Specifier.Mending

/-! # Repairs

The note of a report says what to write (`Heeds`).  To follow the advice of a warning
changes nothing of what a specifier defines and takes that warning away
(`reports_followed`); the reports about what stands behind the edit move
along with it.

An escape of nothing would swallow the delimiter that closes a slot, so it is seen to
first.  Every repair leaves one warning less, and as long as anything is read there is
one to be made (`exists_repairs_iff`).  Hence repairs come to an end, with nothing left to
warn about (`advice_can_be_followed`).
-/

namespace ReporterBlocks.Specifier

/-- The text with the advice of a warning followed. -/
def followed (w : Warning) (text : String) : String := String.ofList (w.follow text.toList)

/-- **What a note asks for is done**: `Heeds text r t` if the note of the report `r` about
`text` says to write what stands in `t`. -/
inductive Heeds : String → Report → String → Prop
  /-- The delimiter that the report is about is escaped. -/
  | escaped {text : String} {r : Report} {before behind : List Char} {c : Char}
      (htext : text.toList = before ++ c :: behind) (hspan : r.span.start = byteLength before)
      (hnote : r.notes = ["write `_" ++ String.singleton c ++ "` to make this explicit"]) :
      Heeds text r (String.ofList (before ++ '_' :: c :: behind))
  /-- The escape character at the end is no literal one, and is left out. -/
  | dropped {t : String} {r : Report} (hnote : r.notes = ["use `__` for a literal underscore"]) :
      Heeds (t ++ "_") r t
  /-- The delimiter that the note names is added. -/
  | closed {text : String} {r : Report} {c : Char}
      (hnote : r.notes = ["the slot runs to the end of the specifier; add `" ++
        String.singleton c ++ "` to close it"]) :
      Heeds text r (text ++ String.singleton c)

/-- One repair: of what is to be seen to first, the advice of some warning is followed. -/
def Repairs (s t : String) : Prop :=
  ∃ w ∈ (read 0 s).warnings, w ≠ .nothing ∧ (∀ v ∈ (read 0 s).warnings, w.rank ≤ v.rank) ∧
    t = followed w s

/-- Repairs in a row. -/
inductive RepairedIn : Nat → String → String → Prop
  | done (s : String) : RepairedIn 0 s s
  | repair {n : Nat} {s t u : String} (h : Repairs s t) (hrest : RepairedIn n t u) :
      RepairedIn (n + 1) s u

theorem pieces_read (source : Nat) (text : String) :
    (read source text).pieces = Automaton.read text.toList :=
  (Automaton.finish_after text.toList 0 []).symm

theorem warnings_read (source : Nat) (text : String) :
    (read source text).warnings = (scan 0 text.toList).2 ++
      if Automaton.read text.toList = [] then [.nothing] else [] := by
  have hempty : (scan 0 text.toList).1.isEmpty = true ↔ Automaton.read text.toList = [] := by
    rw [← pieces_read source, pieces, List.map_eq_nil_iff, List.isEmpty_iff]
    rfl
  simp only [read, hempty]

section Followed
variable {source : Nat} {text : String} {w : Warning}

theorem mem_scan_of_mem_warnings (hw : w ∈ (read source text).warnings) (hne : w ≠ .nothing) :
    w ∈ (scan 0 text.toList).2 := by
  rw [warnings_read] at hw
  rcases List.mem_append.mp hw with hw | hw
  · exact hw
  · split at hw
    · exact absurd (List.mem_singleton.mp hw) hne
    · cases hw

/-- Advice is followed as it is given. -/
theorem heeds_followed (hw : w ∈ (read source text).warnings) (hne : w ≠ .nothing) :
    Heeds text (w.report source) (followed w text) := by
  rcases mem_scan_cases (mem_scan_of_mem_warnings hw hne) with ⟨before, c, behind, h, rfl⟩ |
    ⟨front, hfront, -, rfl⟩ | ⟨before, k, body, h, rfl⟩
  · rw [followed, h.follow_eq]
    exact .escaped h.split rfl rfl
  · have htext : text = String.ofList front ++ "_" := by
      rw [← String.ofList_toList (s := text), hfront, String.ofList_append]
      rfl
    rw [followed, Warning.follow, hfront, List.dropLast_concat, htext]
    exact .dropped rfl
  · have hclosed : followed (.unterminatedSlot k ⟨byteLength before, byteLength text.toList⟩) text =
        text ++ String.singleton k.closing := by
      rw [followed, Warning.follow, String.ofList_append, String.ofList_toList,
        String.singleton_eq_ofList]
    rw [hclosed]
    exact .closed rfl

variable (hw : w ∈ (read source text).warnings) (hne : w ≠ .nothing)
  (hfree : w.rank = 1 → ∀ pos, .danglingEscape pos ∉ (read source text).warnings)
include hw hne hfree

theorem mends_followed : Mends w text.toList (followed w text).toList := by
  rw [followed, String.toList_ofList]
  refine mends_follow (mem_scan_of_mem_warnings hw hne) ?_
  intro hrank pos hmem
  refine hfree hrank pos ?_
  rw [warnings_read]
  exact List.mem_append_left _ hmem

theorem pieces_followed : (read source (followed w text)).pieces = (read source text).pieces := by
  rw [pieces_read, pieces_read, (mends_followed hw hne hfree).pieces_eq]

theorem ofText_followed (result : ValueKind) :
    Definition.ofText (followed w text) result = Definition.ofText text result :=
  congrArg (Definition.ofPieces · result) (pieces_followed hw hne hfree)

theorem reports_followed :
    (read source (followed w text)).reports =
      ((read source text).warnings.erase w).map fun v => (v.report source).move w.place := by
  obtain ⟨hpieces, ws, vs, hwarnings, hnot, hreports⟩ := mends_followed hw hne hfree
  have hnothing : ∀ b : Prop, [Decidable b] →
      (if b then [Warning.nothing] else []).map (Warning.report source) =
        (if b then [Warning.nothing] else []).map fun v => (v.report source).move w.place := by
    intro b _
    split
    · simp [Report.move, Warning.report, Warning.span, Warning.place_zero]
    · rfl
  have hsource : (read source (followed w text)).source = source := rfl
  rw [reports, hsource, warnings_read, warnings_read, hpieces, hwarnings, List.map_append,
    List.append_assoc, List.cons_append, List.erase_append_right _ hnot, List.erase_cons_head,
    ← List.append_assoc, List.map_append, hnothing, ← hreports]

theorem length_warnings_followed :
    (read source (followed w text)).warnings.length + 1 = (read source text).warnings.length := by
  have hlength := congrArg List.length (reports_followed hw hne hfree)
  rw [reports, List.length_map, List.length_map, List.length_erase_of_mem hw] at hlength
  have := List.length_pos_of_mem hw
  omega

end Followed

/-! ## Repairs in a row -/

section Repairs
variable {s t : String}

/-- What is to be seen to first can be, in whatever state the text is otherwise. -/
theorem rank_free {w : Warning} (hfirst : ∀ v ∈ (read 0 s).warnings, w.rank ≤ v.rank) :
    w.rank = 1 → ∀ pos, .danglingEscape pos ∉ (read 0 s).warnings := by
  intro hrank pos hmem
  have hle := hfirst _ hmem
  rw [hrank] at hle
  exact absurd hle (Nat.not_succ_le_zero 0)

theorem Repairs.pieces_eq (h : Repairs s t) : (read 0 t).pieces = (read 0 s).pieces := by
  obtain ⟨w, hw, hne, hfirst, rfl⟩ := h
  exact pieces_followed hw hne (rank_free hfirst)

theorem Repairs.length_warnings (h : Repairs s t) :
    (read 0 t).warnings.length + 1 = (read 0 s).warnings.length := by
  obtain ⟨w, hw, hne, hfirst, rfl⟩ := h
  exact length_warnings_followed hw hne (rank_free hfirst)

theorem RepairedIn.pieces_eq {n : Nat} (h : RepairedIn n s t) :
    (read 0 t).pieces = (read 0 s).pieces := by
  induction h with
  | done => rfl
  | repair h _ ih => rw [ih, h.pieces_eq]

/-- Every repair leaves one warning less. -/
theorem RepairedIn.length_warnings {n : Nat} (h : RepairedIn n s t) :
    n + (read 0 t).warnings.length = (read 0 s).warnings.length := by
  induction h with
  | done => exact Nat.zero_add _
  | repair h _ ih =>
    have hone := h.length_warnings
    omega

theorem nothing_not_mem_warnings (hs : (read 0 s).pieces ≠ []) :
    .nothing ∉ (read 0 s).warnings := by
  rw [pieces_read] at hs
  rw [warnings_read, if_neg hs, List.append_nil]
  exact nothing_not_mem_scan 0 s.toList

/-- **As long as there is a warning, there is a repair**, if there is anything to read. -/
theorem exists_repairs_iff (hs : (read 0 s).pieces ≠ []) :
    (∃ t, Repairs s t) ↔ (read 0 s).warnings ≠ [] := by
  constructor
  · rintro ⟨t, w, hw, -⟩
    exact List.ne_nil_of_mem hw
  · intro hwarnings
    obtain ⟨w, hleast⟩ : ∃ w, (read 0 s).warnings.argmin Warning.rank = some w :=
      Option.ne_none_iff_exists'.mp (mt List.argmin_eq_none.mp hwarnings)
    have hw := List.argmin_mem hleast
    refine ⟨followed w s, w, hw, ?_, fun v hv => List.le_of_mem_argmin hv hleast, rfl⟩
    rintro rfl
    exact nothing_not_mem_warnings hs hw

theorem exists_repairedIn (hs : (read 0 s).pieces ≠ []) :
    ∃ t, RepairedIn (read 0 s).warnings.length s t := by
  -- on the number of warnings, which every repair makes smaller
  induction hlength : (read 0 s).warnings.length generalizing s with
  | zero => exact ⟨s, .done s⟩
  | succ n ih =>
    obtain ⟨t, ht⟩ := (exists_repairs_iff hs).mpr (List.ne_nil_of_length_eq_add_one hlength)
    have hone := ht.length_warnings
    obtain ⟨u, hu⟩ := ih (ht.pieces_eq.trans_ne hs) (by omega)
    exact ⟨u, .repair ht hu⟩

theorem pieces_ne_nil (hempty : s ≠ "") (hescape : s ≠ "_") : (read 0 s).pieces ≠ [] := by
  rw [pieces, Ne, List.map_eq_nil_iff]
  intro hnil
  rcases (scan_eq_nil_iff 0 s.toList).mp hnil with h | h
  · exact hempty (String.toList_eq_nil_iff.mp h)
  · exact hescape (String.toList_injective h)

end Repairs

/-- **Following the advice of a warning**, as the note of its report gives it, is reading the
same without that warning.  A stray delimiter is escaped, an escape of nothing left out, an
open slot closed if no escape of nothing stands in the way: the pieces are the same, so the
same is defined, and the reports are the others, about the same stretches of the text.  In any
text but the two that nothing is read from, repairs therefore come to an end, after one for
each warning, at a text that defines the same and is not warned about. -/
theorem advice_can_be_followed (source : Nat) (text : String) :
    (∀ w ∈ (read source text).warnings, w ≠ .nothing →
      Heeds text (w.report source) (followed w text)) ∧
    (∀ w ∈ (read source text).warnings, w ≠ .nothing →
      (∀ k span, w = .unterminatedSlot k span →
        ∀ pos, .danglingEscape pos ∉ (read source text).warnings) →
      (read source (followed w text)).pieces = (read source text).pieces ∧
      (∀ result, Definition.ofText (followed w text) result = Definition.ofText text result) ∧
      (read source (followed w text)).reports =
        ((read source text).warnings.erase w).map fun v => (v.report source).move w.place) ∧
    (text ≠ "" → text ≠ "_" →
      (∀ n t, RepairedIn n text t →
        (∀ result, Definition.ofText t result = Definition.ofText text result) ∧
        n + (read source t).warnings.length = (read source text).warnings.length ∧
        ((∃ u, Repairs t u) ↔ (read source t).warnings ≠ [])) ∧
      ∃ t, RepairedIn (read source text).warnings.length text t ∧
        (read source t).warnings = [] ∧
        ∀ result, Definition.ofText t result = Definition.ofText text result) := by
  refine ⟨fun w hw hne => heeds_followed hw hne, ?_, ?_⟩
  · intro w hw hne hclosed
    have hfree : w.rank = 1 → ∀ pos, .danglingEscape pos ∉ (read source text).warnings := by
      intro hrank
      cases w with
      | unterminatedSlot k span => exact hclosed k span rfl
      | strayCloser | danglingEscape | nothing => cases hrank
    exact ⟨pieces_followed hw hne hfree, ofText_followed hw hne hfree,
      reports_followed hw hne hfree⟩
  · intro hempty hescape
    have hpieces := pieces_ne_nil hempty hescape
    have hsame : ∀ n t, RepairedIn n text t →
        ∀ result, Definition.ofText t result = Definition.ofText text result :=
      fun n t h result => congrArg (Definition.ofPieces · result) h.pieces_eq
    refine ⟨fun n t h => ⟨hsame n t h, h.length_warnings, ?_⟩, ?_⟩
    · exact exists_repairs_iff (h.pieces_eq.trans_ne hpieces)
    · obtain ⟨t, ht⟩ := exists_repairedIn hpieces
      have hnone : (read 0 t).warnings.length = 0 := by
        have hlength := ht.length_warnings
        omega
      exact ⟨t, ht, List.length_eq_zero_iff.mp hnone, hsame _ t ht⟩

/-- A stray in front of an open slot that ends in an escape of nothing: the reports about
the slot move behind the escape of the stray, and three repairs leave nothing to warn
about. -/
theorem advice_can_be_followed_in_turn :
    let text := "a) [b_"
    let w := Warning.strayCloser ')' 1
    let v := Warning.danglingEscape 5
    (read 7 text).warnings = [w, v, .unterminatedSlot .string ⟨3, 6⟩] ∧
      (v.report 7).notes = ["use `__` for a literal underscore"] ∧
      Heeds text (v.report 7) "a) [b" ∧ followed w text = "a_) [b_" ∧
      (read 7 (followed w text)).pieces = [.label "a) ", .slot .string "b"] ∧
      (read 7 (followed w text)).reports =
        [(Warning.danglingEscape 6).report 7, (Warning.unterminatedSlot .string ⟨4, 7⟩).report 7] ∧
      ∃ t, RepairedIn 3 text t ∧ (read 7 t).warnings = [] ∧
        Definition.ofText t .reporter = Definition.ofText text .reporter := by
  intro text w v
  have hwarnings : (read 7 text).warnings =
      [w, v, .unterminatedSlot .string ⟨3, 6⟩] := by decide +kernel
  have hpieces : (read 7 text).pieces = [.label "a) ", .slot .string "b"] := by decide +kernel
  obtain ⟨hheeds, hfollow, hrepair⟩ := advice_can_be_followed 7 text
  have hfollowed : followed v text = "a) [b" := by decide +kernel
  have hdropped := hheeds v (by simp [hwarnings]) (by simp [v])
  rw [hfollowed] at hdropped
  obtain ⟨hsame, -, hreports⟩ := hfollow w (by simp [hwarnings]) (by simp [w]) (by simp [w])
  obtain ⟨-, t, ht, hnone, hdefine⟩ := hrepair (by decide) (by decide)
  rw [hwarnings] at hreports ht
  exact ⟨hwarnings, rfl, hdropped, by decide +kernel, hsame.trans hpieces,
    hreports.trans (by decide +kernel), t, ht, hnone, hdefine .reporter⟩

end ReporterBlocks.Specifier
