import ReporterBlocks.Proofs.Text.Lines
import ReporterBlocks.Session.Basic

/-! # The specifiers that a text lists

`specifierLines` goes through the lines of a text.  Since it drops every carriage return at
the end of a line, and blank lines, it may as well go through the pieces between the line
feeds (`specifierLines_eq`), and two texts with a line feed between them list what each of
them does (`specifierLines_append`).

So a text is listed line by line: a line that is a `SpecifierLine` is listed as it is, also
with carriage returns behind it, and no other line is (`specifierLines_of_silent`).  It does
not matter how lines are ended, and a list of specifiers that is put down one on a line is
listed again (`lists_line_by_line`).
-/

namespace ReporterBlocks

/-- The line lists a specifier. -/
def isListed (l : List Char) : Bool :=
  match Text.trim l with
  | [] => false
  | c :: _ => c ≠ '#'

theorem specifierLines_eq (text : String) :
    specifierLines text =
      (((Text.piecesAt '\n' text.toList).map (Text.dropEnd (· = '\r'))).filter isListed).map
        String.ofList := by
  have hlines : (Text.lines text).map (fun l => Text.dropEnd (· = '\r') l.toList) =
      (Text.linesOfPieces (Text.piecesAt '\n' text.toList)).map (Text.dropEnd (· = '\r')) := by
    rw [Text.lines, List.map_map]
    exact List.map_congr_left fun l _ => by rw [Function.comp_apply, String.toList_ofList]
  rw [← Text.filter_map_linesOfPieces Text.dropEnd_chopReturn rfl, ← hlines]
  rfl

/-- **A line feed between two texts** keeps apart what they list. -/
theorem specifierLines_append (cs ds : List Char) :
    specifierLines (String.ofList (cs ++ '\n' :: ds)) =
      specifierLines (String.ofList cs) ++ specifierLines (String.ofList ds) := by
  simp only [specifierLines_eq, String.toList_ofList, Text.piecesAt_append, List.map_append,
    List.filter_append]

/-! ## One line -/

theorem isListed_iff (l : List Char) :
    isListed l = true ↔ ∃ c, l.find? (fun c => !Text.isBlank c) = some c ∧ c ≠ '#' := by
  rw [← Text.head?_trim, isListed]
  cases Text.trim l <;> simp

/-- **A line that is a specifier**: there is no line feed in it and no carriage return at its
end, and the first character that is not blank is no `#`. -/
structure SpecifierLine (l : String) : Prop where
  oneLine : '\n' ∉ l.toList
  noReturn : l.toList.getLast? ≠ some '\r'
  spoken : ∃ c, l.toList.find? (fun c => !Text.isBlank c) = some c ∧ c ≠ '#'

theorem specifierLine_of_mem {text l : String} (h : l ∈ specifierLines text) :
    SpecifierLine l := by
  rw [specifierLines_eq] at h
  obtain ⟨cs, hcs, rfl⟩ := List.mem_map.mp h
  obtain ⟨hdropped, hlisted⟩ := List.mem_filter.mp hcs
  obtain ⟨piece, hpiece, rfl⟩ := List.mem_map.mp hdropped
  constructor <;> rw [String.toList_ofList]
  case oneLine =>
    intro hmem
    exact Text.not_mem_of_mem_piecesAt hpiece ((Text.dropEnd_isPrefix _ _).subset hmem)
  case noReturn =>
    intro hlast
    exact of_decide_eq_false (Text.getLast?_dropEnd _ piece '\r' hlast) rfl
  case spoken => exact (isListed_iff _).mp hlisted

theorem specifierLines_of_not_mem {cs : List Char} (hcs : '\n' ∉ cs) :
    specifierLines (String.ofList cs) =
      ([Text.dropEnd (· = '\r') cs].filter isListed).map String.ofList := by
  rw [specifierLines_eq, String.toList_ofList, Text.piecesAt_of_not_mem hcs, List.map_singleton]

/-- **A specifier is listed as it is**, whatever carriage returns stand behind it. -/
theorem SpecifierLine.listed {l : String} (hl : SpecifierLine l) (n : Nat) :
    specifierLines (l ++ String.ofList (List.replicate n '\r')) = [l] := by
  have hdrop : Text.dropEnd (· = '\r') (l.toList ++ List.replicate n '\r') = l.toList := by
    rw [Text.dropEnd_append, Text.dropEnd_of_getLast?]
    · exact fun c hc => decide_eq_false fun he => hl.noReturn (he ▸ hc)
    · exact fun c hc => decide_eq_true (List.eq_of_mem_replicate hc)
  have hline : '\n' ∉ l.toList ++ List.replicate n '\r' := by
    rw [List.mem_append, not_or]
    exact ⟨hl.oneLine, fun hmem => absurd (List.eq_of_mem_replicate hmem) (by decide)⟩
  have hlisted : isListed l.toList = true := (isListed_iff _).mpr hl.spoken
  have hlist : l ++ String.ofList (List.replicate n '\r') =
      String.ofList (l.toList ++ List.replicate n '\r') := by
    rw [String.ofList_append, String.ofList_toList]
  rw [hlist, specifierLines_of_not_mem hline, hdrop, List.filter_cons_of_pos hlisted,
    List.filter_nil, List.map_singleton, String.ofList_toList]

/-- A line that is blank or begins with `#` lists nothing. -/
theorem specifierLines_of_silent {l : String} (hl : '\n' ∉ l.toList)
    (hsilent : ∀ c, l.toList.find? (fun c => !Text.isBlank c) = some c → c = '#') :
    specifierLines l = [] := by
  have hnot : ¬ isListed (Text.dropEnd (· = '\r') l.toList) = true := by
    rw [isListed_iff]
    rintro ⟨c, hc, hne⟩
    exact hne (hsilent c ((Text.dropEnd_isPrefix _ _).find?_eq_some hc))
  rw [← String.ofList_toList (s := l), specifierLines_of_not_mem hl, List.filter_cons_of_neg hnot]
  rfl

/-! ## Many lines -/

theorem specifierLines_feed (a b : String) :
    specifierLines (a ++ "\n" ++ b) = specifierLines a ++ specifierLines b := by
  have hsplit : a ++ "\n" ++ b = String.ofList (a.toList ++ '\n' :: b.toList) := by
    simp [← String.toList_inj]
  rw [hsplit, specifierLines_append, String.ofList_toList, String.ofList_toList]

/-- Specifiers that are put down one on a line are listed. -/
theorem specifierLines_intercalate {ls : List String} (hls : ∀ l ∈ ls, SpecifierLine l) :
    specifierLines ("\n".intercalate ls) = ls := by
  induction ls with
  | nil => rfl
  | cons l ls ih =>
    obtain ⟨hl, hrest⟩ := List.forall_mem_cons.mp hls
    have hone : specifierLines l = [l] := by
      have hlisted := hl.listed 0
      rwa [List.replicate_zero, String.ofList_nil, String.append_empty] at hlisted
    cases ls with
    | nil => rwa [String.intercalate_singleton]
    | cons m ls =>
      rw [String.intercalate_cons_cons, specifierLines_feed, hone, ih hrest]
      rfl

/-- **A text lists its specifiers line by line.**  Two texts with a line feed between them
list what each of them does, and it makes no difference if every line feed has a carriage
return before it.  What is listed are lines that are specifiers, and put down one on a line
they are listed again.  A line that is a specifier is listed with all its blanks and inner
carriage returns, and a line that is blank or begins with `#` is not. -/
theorem lists_line_by_line :
    (∀ a b, specifierLines (a ++ "\n" ++ b) = specifierLines a ++ specifierLines b) ∧
    (∀ text, specifierLines (String.ofList (Text.withReturns text.toList)) =
      specifierLines text) ∧
    (∀ text, ∀ l ∈ specifierLines text, SpecifierLine l) ∧
    (∀ text, specifierLines ("\n".intercalate (specifierLines text)) = specifierLines text) ∧
    (∀ l n, SpecifierLine l →
      specifierLines (l ++ String.ofList (List.replicate n '\r')) = [l]) ∧
    ∀ l : String, '\n' ∉ l.toList →
      (∀ c, l.toList.find? (fun c => !Text.isBlank c) = some c → c = '#') →
      specifierLines l = [] := by
  refine ⟨specifierLines_feed, ?_, ?_, ?_, ?_, ?_⟩
  · intro text
    simp only [specifierLines_eq, String.toList_ofList, Text.map_dropEnd_withReturns]
  · exact fun text l hl => specifierLine_of_mem hl
  · exact fun text => specifierLines_intercalate fun l hl => specifierLine_of_mem hl
  · exact fun l n hl => hl.listed n
  · exact fun l hl hsilent => specifierLines_of_silent hl hsilent

/-- Comments and blank lines go, and of a line with carriage returns in it and behind it
those behind. -/
theorem lists_line_by_line_returns :
    let text := "# none\nsay [msg]\n\n   \r\n  # none\n a\rb \r\r"
    specifierLines text = ["say [msg]", " a\rb "] ∧ SpecifierLine " a\rb " ∧
      specifierLines " a\rb \r\r" = [" a\rb "] ∧ specifierLines "  # none" = [] := by
  intro text
  obtain ⟨-, -, hlines, -, hlisted, hsilent⟩ := lists_line_by_line
  have htext : specifierLines text = ["say [msg]", " a\rb "] := by decide +kernel
  have hline : SpecifierLine " a\rb " := hlines text _ (by simp [htext])
  have hfirst : "  # none".toList.find? (fun c => !Text.isBlank c) = some '#' := by
    decide +kernel
  refine ⟨htext, hline, hlisted _ 2 hline, hsilent _ (by decide) fun c hc => ?_⟩
  exact Option.some.inj (hc.symm.trans hfirst)

end ReporterBlocks
