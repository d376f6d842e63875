import ReporterBlocks.Proofs.Block.Placeholder

/-! # Reading a display name

The display name of a definition shows its slots with their delimiters and a space behind
each, but shows texts as they are, without escapes.  If none was needed, which is so in
every specifier that has no escape character, the display name can be read again.  It is
read as the same slots and labels, save that the space behind a slot becomes a label or
joins the one that follows (`spaced`, `scan_displayed`).

The spaces can be taken away again (`spaced_injective`), so that a display name stands for
one list of pieces (`display_name_identifies`).
-/

namespace ReporterBlocks

/-! ## Texts that need no escape -/

/-- The piece can be put down as it is: its text spells itself. -/
def Piece.Bare : Piece → Prop
  | label text => LabelSpells text.toList text.toList false
  | slot k name => k.Spells name.toList name.toList false

theorem bare_of_mem_labelPieces {text : List Char} (h : LabelSpells text text false) :
    ∀ p ∈ labelPieces text, p.Bare := by
  intro p hp
  unfold labelPieces at hp
  split at hp
  · cases hp
  · rw [List.mem_singleton.mp hp, Piece.Bare, String.toList_ofList]
    exact h

theorem bare_slot {k : SlotKind} {name : List Char} (h : k.Spells name name false) :
    (Piece.slot k (String.ofList name)).Bare := by
  rw [Piece.Bare, String.toList_ofList]
  exact h

/-- **What is read where nothing is escaped** can be put down as it is. -/
theorem bare_scan (pos : Nat) {cs : List Char} (hcs : escapeChar ∉ cs) :
    ∀ p ∈ (scan pos cs).1.map Fragment.piece, p.Bare := by
  induction layout cs generalizing pos with
  | label h =>
    obtain ⟨rfl, rfl⟩ := h.eq_of_unescaped hcs
    rw [scan_label pos h, map_piece_labelFragment]
    exact bare_of_mem_labelPieces h
  | unclosed h k hname =>
    rw [List.mem_append, List.mem_cons, not_or, not_or] at hcs
    obtain ⟨rfl, -⟩ := h.eq_of_unescaped hcs.1
    obtain ⟨rfl, rfl⟩ := hname.eq_of_unescaped hcs.2.2
    rw [scan_unclosed pos h hname, List.map_append, map_piece_labelFragment]
    intro p hp
    rcases List.mem_append.mp hp with hp | hp
    · exact bare_of_mem_labelPieces h p hp
    · rw [List.mem_singleton.mp hp]
      exact bare_slot hname
  | slot h k hname _ ih =>
    simp only [List.mem_append, List.mem_cons, not_or] at hcs
    obtain ⟨rfl, -⟩ := h.eq_of_unescaped hcs.1
    obtain ⟨rfl, -⟩ := hname.eq_of_unescaped hcs.2.2.1
    rw [scan_slot pos h hname, List.map_append, map_piece_labelFragment, List.map_cons]
    intro p hp
    rcases List.mem_append.mp hp with hp | hp
    · exact bare_of_mem_labelPieces h p hp
    · rcases List.mem_cons.mp hp with rfl | hp
      · exact bare_slot hname
      · exact ih _ hcs.2.2.2.2 p hp

/-! ## Spaces behind slots -/

/-- Puts text in front, into the label that stands there if there is one. -/
def joinLabel (text : String) : List Piece → List Piece
  | .label rest :: ps => .label (text ++ rest) :: ps
  | ps => labelPieces text.toList ++ ps

/-- The pieces with a space behind every slot, at the beginning of the label that follows
or as a label of its own. -/
def spaced : List Piece → List Piece
  | [] => []
  | .label text :: ps => .label text :: spaced ps
  | .slot k name :: ps => .slot k name :: joinLabel " " (spaced ps)

theorem joinLabel_empty (ps : List Piece) : joinLabel "" ps = ps := by
  unfold joinLabel
  split
  · rw [String.empty_append]
  · rfl

theorem joinLabel_of_slotFirst {ps : List Piece} (hps : SlotFirst ps) (text : String) :
    joinLabel text ps = labelPieces text.toList ++ ps := by
  rcases ps with _ | ⟨_ | _, ps⟩
  · rfl
  · exact absurd (hps _ rfl) (by simp [Piece.kind?])
  · rfl

theorem slotFirst_spaced {ps : List Piece} (hps : SlotFirst ps) : SlotFirst (spaced ps) := by
  rcases ps with _ | ⟨_ | _, ps⟩
  · exact hps
  · exact absurd (hps _ rfl) (by simp [Piece.kind?])
  · simp [SlotFirst, spaced, Piece.kind?]

/-- **Pieces that are shown are read again**, spaced, behind text that a label begins with. -/
theorem scan_displayed {ps : List Piece} (hps : Normal ps) (hbare : ∀ p ∈ ps, p.Bare) (pos : Nat)
    {text : String} (h : LabelSpells text.toList text.toList false) :
    (scan pos (text.toList ++ ps.flatMap fun p => p.display.toList)).1.map Fragment.piece =
      joinLabel text (spaced ps) := by
  induction ps generalizing pos text with
  | nil =>
    rw [List.flatMap_nil, List.append_nil, scan_label pos h, map_piece_labelFragment]
    exact (List.append_nil _).symm
  | cons p ps ih =>
    obtain ⟨hp, hrest⟩ := List.forall_mem_cons.mp hbare
    cases p with
    | label t =>
      obtain ⟨ht, hslot, hnormal⟩ := normal_label_cons.mp hps
      have hboth : LabelSpells (text ++ t).toList (text ++ t).toList false := by
        rw [String.toList_append]
        exact h.append hp
      have hne : text ++ t ≠ "" := fun hnone => ht (String.append_eq_empty_iff.mp hnone).2
      have hread := ih hnormal hrest pos hboth
      rw [joinLabel_of_slotFirst (slotFirst_spaced hslot), labelPieces_toList hne,
        String.toList_append, List.append_assoc] at hread
      exact hread
    | slot k name =>
      have hsplit : text.toList ++ (Piece.slot k name :: ps).flatMap (fun p => p.display.toList) =
          text.toList ++ k.opening :: (name.toList ++ k.closing ::
            (" ".toList ++ ps.flatMap fun p => p.display.toList)) := by
        simp [Piece.display]
      have hspace : LabelSpells " ".toList " ".toList false :=
        .plain ' ' (by decide) rfl .nil
      have hread := fun stop => ih (normal_slot_cons.mp hps) hrest stop hspace
      rw [hsplit, scan_slot pos h hp, List.map_append, List.map_cons, map_piece_labelFragment,
        String.ofList_toList]
      exact congrArg (labelPieces text.toList ++ Piece.slot k name :: ·) (hread _)

/-! ## One list for each display name -/

theorem empty_not_mem_joinLabel {ps : List Piece} (hps : .label "" ∉ ps) :
    .label "" ∉ joinLabel " " ps := by
  rcases ps with _ | ⟨text | _, ps⟩ <;> simp_all [joinLabel, labelPieces]

theorem empty_not_mem_spaced {ps : List Piece} (hps : .label "" ∉ ps) :
    .label "" ∉ spaced ps := by
  induction ps with
  | nil => exact hps
  | cons p ps ih =>
    rw [List.mem_cons, not_or] at hps
    cases p with
    | label text =>
      rw [spaced, List.mem_cons, not_or]
      exact ⟨hps.1, ih hps.2⟩
    | slot k name =>
      rw [spaced, List.mem_cons, not_or]
      exact ⟨hps.1, empty_not_mem_joinLabel (ih hps.2)⟩

theorem space_append_eq_space_iff {text : String} : " " = " " ++ text ↔ text = "" := by
  rw [eq_comm, String.append_eq_left_iff]

/-- A space that is a label of its own is told from one that begins a label by the text
behind it. -/
theorem joinLabel_injective {ps qs : List Piece} (hps : .label "" ∉ ps) (hqs : .label "" ∉ qs)
    (h : joinLabel " " ps = joinLabel " " qs) : ps = qs := by
  rcases ps with _ | ⟨text | _, ps⟩ <;> rcases qs with _ | ⟨text' | _, qs⟩ <;>
    simp_all [joinLabel, labelPieces, space_append_eq_space_iff]

theorem spaced_injective {ps qs : List Piece} (hps : .label "" ∉ ps) (hqs : .label "" ∉ qs)
    (h : spaced ps = spaced qs) : ps = qs := by
  induction ps generalizing qs with
  | nil =>
    cases qs with
    | nil => rfl
    | cons q qs => cases q <;> cases h
  | cons p ps ih =>
    rw [List.mem_cons, not_or] at hps
    cases qs with
    | nil => cases p <;> cases h
    | cons q qs =>
      rw [List.mem_cons, not_or] at hqs
      cases p with
      | label text =>
        cases q with
        | slot => cases h
        | label text' =>
          obtain ⟨htext, hrest⟩ := List.cons.inj h
          rw [htext, ih hps.2 hqs.2 hrest]
      | slot k name =>
        cases q with
        | label => cases h
        | slot k' name' =>
          obtain ⟨hslot, hrest⟩ := List.cons.inj h
          have hspaced := joinLabel_injective (empty_not_mem_spaced hps.2)
            (empty_not_mem_spaced hqs.2) hrest
          rw [hslot, ih hps.2 hqs.2 hspaced]

/-! ## What a list of pieces is known by -/

namespace Piece

/-- The text of a label. -/
def label? : Piece → Option String
  | label text => some text
  | slot _ _ => none

/-- What the piece is in a template that keeps labels apart. -/
def part : Piece → TemplatePart
  | label text => .text text
  | slot k _ => .slot k

end Piece

theorem Template.addText_of_slotFirst {ps : List Piece} (hps : SlotFirst ps) {text : String}
    (htext : text ≠ "") : addText text (ps.map Piece.part) = .text text :: ps.map Piece.part := by
  rcases ps with _ | ⟨_ | _, ps⟩
  · simp [addText, htext]
  · exact absurd (hps _ rfl) (by simp [Piece.kind?])
  · simp [addText, htext, Piece.part]

/-- No label of a normal list is merged or left out. -/
theorem Template.ofPieces_of_normal {ps : List Piece} (hps : Normal ps) :
    ofPieces ps = ps.map Piece.part := by
  induction ps with
  | nil => rfl
  | cons p ps ih =>
    rw [ofPieces, List.foldr_cons, ← ofPieces]
    cases p with
    | label text =>
      obtain ⟨htext, hslot, hrest⟩ := normal_label_cons.mp hps
      rw [ih hrest]
      exact addText_of_slotFirst hslot htext
    | slot k name =>
      rw [ih (normal_slot_cons.mp hps)]
      rfl

/-- The names of the slots are all that a template leaves out. -/
theorem eq_of_parts_of_parameters {ps qs : List Piece}
    (hparts : ps.map Piece.part = qs.map Piece.part)
    (hparameters : ps.filterMap Piece.parameter? = qs.filterMap Piece.parameter?) : ps = qs := by
  induction ps generalizing qs with
  | nil => exact (List.map_eq_nil_iff.mp hparts.symm).symm
  | cons p ps ih =>
    cases qs with
    | nil => cases hparts
    | cons q qs =>
      obtain ⟨hpart, hrest⟩ := List.cons.inj hparts
      cases p with
      | label text =>
        cases q with
        | slot => cases hpart
        | label text' =>
          cases hpart
          rw [ih hrest hparameters]
      | slot k name =>
        cases q with
        | label => cases hpart
        | slot k' name' =>
          obtain ⟨hparameter, hrest'⟩ := List.cons.inj hparameters
          obtain rfl : name = name' := congrArg Parameter.name hparameter
          cases hpart
          rw [ih hrest hrest']

namespace Specifier

/-- **A display name stands for one list of pieces** where nothing is escaped.  Reading it
gives back the pieces that it shows, with a space behind every slot; so two specifiers have
one display name exactly if the same is read from both, which is so exactly if they have
the same labels, parameters and call template. -/
theorem display_name_identifies (source : Nat) :
    (∀ spec result, escapeChar ∉ spec.toList →
      (read source (Definition.ofText spec result).displayName).pieces =
        spaced (read source spec).pieces) ∧
    ∀ spec spec' result result', escapeChar ∉ spec.toList → escapeChar ∉ spec'.toList →
      let ps := (read source spec).pieces
      let ps' := (read source spec').pieces
      let d := Definition.ofText spec result
      let d' := Definition.ofText spec' result'
      (d.displayName = d'.displayName ↔ ps = ps') ∧
      (ps = ps' ↔ ps.filterMap Piece.label? = ps'.filterMap Piece.label? ∧
        d.parameters = d'.parameters ∧ d.callTemplate = d'.callTemplate) := by
  have hreads : ∀ spec result, escapeChar ∉ spec.toList →
      (read source (Definition.ofText spec result).displayName).pieces =
        spaced (read source spec).pieces := by
    intro spec result hspec
    have hempty : LabelSpells "".toList "".toList false := .nil
    have hread := scan_displayed (normal_scan 0 spec.toList) (bare_scan 0 hspec) 0 hempty
    rw [joinLabel_empty, String.toList_empty, List.nil_append, ← toList_displayText] at hread
    exact hread
  refine ⟨hreads, ?_⟩
  intro spec spec' result result' hspec hspec' ps ps' d d'
  have hnormal : Normal ps := normal_scan 0 spec.toList
  have hnormal' : Normal ps' := normal_scan 0 spec'.toList
  refine ⟨⟨?_, ?_⟩, ⟨?_, ?_⟩⟩
  · intro hname
    refine spaced_injective hnormal.nonempty hnormal'.nonempty ?_
    exact (hreads spec result hspec).symm.trans
      ((congrArg (fun name => (read source name).pieces) hname).trans
        (hreads spec' result' hspec'))
  · intro hpieces
    exact congrArg Definition.displayText hpieces
  · intro hpieces
    exact ⟨congrArg _ hpieces, congrArg (List.filterMap Piece.parameter?) hpieces,
      congrArg Template.ofPieces hpieces⟩
  · rintro ⟨-, hparameters, htemplate⟩
    have hparts : ps.map Piece.part = ps'.map Piece.part := by
      rw [← Template.ofPieces_of_normal hnormal, ← Template.ofPieces_of_normal hnormal']
      exact htemplate
    exact eq_of_parts_of_parameters hparts hparameters

/-- A slot that is never closed and one that is closed have one display name, and a label
that begins with a space has another. -/
theorem display_name_identifies_unclosed :
    (read 0 (Definition.ofText "get [x](n) to" .reporter).displayName).pieces =
        [.label "get ", .slot .string "x", .label " ", .slot .number "n", .label "  to"] ∧
      (Definition.ofText "get [x]" .reporter).displayName =
        (Definition.ofText "get [x" .boolean).displayName ∧
      (Definition.ofText "get [x]" .reporter).displayName ≠
        (Definition.ofText "get [x] " .reporter).displayName := by
  obtain ⟨hreads, hsame⟩ := display_name_identifies 0
  refine ⟨?_, ?_, ?_⟩
  · rw [hreads _ _ (by decide)]
    decide +kernel
  · exact (hsame _ _ _ _ (by decide) (by decide)).1.mpr (by decide +kernel)
  · rw [Ne, (hsame _ _ _ _ (by decide) (by decide)).1]
    decide +kernel

end Specifier
end ReporterBlocks
