import Mathlib.Data.List.Chain
import ReporterBlocks.Proofs.Specifier.Layout

/-! # Writing what is read

A list of labels and slots is `Normal` if no label is empty and no two labels stand side
by side.  `Specifier.write` puts such a list down as a specifier, with an escape character
before each character that would otherwise be taken for something else.

Reading gives it back, and without a warning, since everything that could be warned about
is escaped (`scan_written`).  What is read from any text is normal (`normal_scan`).  So the
normal lists are exactly those that can be read (`normal_reads_back`).
-/

namespace ReporterBlocks

/-! ## Normal lists -/

/-- No label is empty, and of two neighbours one is a slot. -/
structure Normal (ps : List Piece) : Prop where
  nonempty : Piece.label "" ∉ ps
  apart : ps.IsChain fun p q => p.kind?.isSome ∨ q.kind?.isSome

/-- The list does not begin with a label. -/
def SlotFirst (ps : List Piece) : Prop := ∀ p ∈ ps.head?, p.kind?.isSome

theorem normal_nil : Normal [] := ⟨List.not_mem_nil, .nil⟩

theorem normal_slot_cons {k : SlotKind} {name : String} {ps : List Piece} :
    Normal (.slot k name :: ps) ↔ Normal ps := by
  constructor
  · rintro ⟨hnonempty, hapart⟩
    exact ⟨fun h => hnonempty (List.mem_cons_of_mem _ h), (List.isChain_cons.mp hapart).2⟩
  · rintro ⟨hnonempty, hapart⟩
    refine ⟨?_, List.isChain_cons.mpr ⟨fun p _ => Or.inl rfl, hapart⟩⟩
    rw [List.mem_cons, not_or]
    exact ⟨Piece.noConfusion, hnonempty⟩

theorem normal_label_cons {text : String} {ps : List Piece} :
    Normal (.label text :: ps) ↔ text ≠ "" ∧ SlotFirst ps ∧ Normal ps := by
  constructor
  · rintro ⟨hnonempty, hapart⟩
    rw [List.mem_cons, not_or] at hnonempty
    obtain ⟨hhead, htail⟩ := List.isChain_cons.mp hapart
    refine ⟨?_, fun p hp => (hhead p hp).resolve_left (by simp [Piece.kind?]),
      ⟨hnonempty.2, htail⟩⟩
    rintro rfl
    exact hnonempty.1 rfl
  · rintro ⟨htext, hslot, hnonempty, hapart⟩
    refine ⟨?_, List.isChain_cons.mpr ⟨fun p hp => Or.inr (hslot p hp), hapart⟩⟩
    rw [List.mem_cons, not_or]
    exact ⟨fun h => htext (Piece.label.inj h).symm, hnonempty⟩

/-- A label as a piece, unless it is empty. -/
def labelPieces (text : List Char) : List Piece :=
  if text = [] then [] else [.label (String.ofList text)]

theorem labelPieces_nil : labelPieces [] = [] := rfl

theorem labelPieces_toList {text : String} (htext : text ≠ "") :
    labelPieces text.toList = [.label text] := by
  rw [labelPieces, if_neg (String.toList_eq_nil_iff.not.mpr htext), String.ofList_toList]

theorem map_piece_labelFragment (text : List Char) (span : Span) :
    (labelFragment text span).map Fragment.piece = labelPieces text := by
  rw [labelFragment, labelPieces]
  split <;> rfl

theorem normal_labelPieces_append (text : List Char) {ps : List Piece} (hslot : SlotFirst ps)
    (hps : Normal ps) : Normal (labelPieces text ++ ps) := by
  rw [labelPieces]
  split
  · exact hps
  · next htext =>
    have hne : String.ofList text ≠ "" := by
      rwa [Ne, ← String.toList_eq_nil_iff, String.toList_ofList]
    exact normal_label_cons.mpr ⟨hne, hslot, hps⟩

/-- **What is read is normal.** -/
theorem normal_scan (pos : Nat) (cs : List Char) :
    Normal ((scan pos cs).1.map Fragment.piece) := by
  induction layout cs generalizing pos with
  | @label raw text _ h =>
    rw [scan_label pos h, map_piece_labelFragment, ← List.append_nil (labelPieces text)]
    exact normal_labelPieces_append text (by simp [SlotFirst]) normal_nil
  | unclosed h k hname =>
    rw [scan_unclosed pos h hname, List.map_append, map_piece_labelFragment]
    exact normal_labelPieces_append _ (by simp [SlotFirst, Piece.kind?])
      (normal_slot_cons.mpr normal_nil)
  | slot h k hname _ ih =>
    rw [scan_slot pos h hname, List.map_append, map_piece_labelFragment]
    exact normal_labelPieces_append _ (by simp [SlotFirst, Piece.kind?])
      (normal_slot_cons.mpr (ih _))

/-! ## Written forms -/

/-- Text with an escape character before each of the special ones. -/
def escapeText (specials text : List Char) : List Char :=
  text.flatMap fun c => if c ∈ specials then [escapeChar, c] else [c]

/-- What cannot stand for itself in a label: the escape character and all delimiters. -/
def labelSpecials : List Char := [escapeChar, '[', '(', '<', ']', ')', '>']

/-- A piece as it is written in a specifier. -/
def Piece.written : Piece → List Char
  | label text => escapeText labelSpecials text.toList
  | slot k name => k.enclose (escapeText [escapeChar, k.closing] name.toList)

/-- A list of pieces as a specifier. -/
def Specifier.write (ps : List Piece) : String := String.ofList (ps.flatMap Piece.written)

theorem spells_escapeText {β : Type} {stop : Char → Option β} {specials : List Char}
    (hescape : escapeChar ∈ specials) (hstop : ∀ c, c ∉ specials → stop c = none)
    (text : List Char) : Spells stop (escapeText specials text) text false := by
  induction text with
  | nil => exact .nil
  | cons c text ih =>
    rw [escapeText, List.flatMap_cons]
    split
    · exact ih.escaped c
    · next hc => exact ih.plain c (fun h => hc (h ▸ hescape)) (hstop c hc)

theorem labelSpells_escapeText (text : List Char) :
    LabelSpells (escapeText labelSpecials text) text false := by
  refine spells_escapeText (by simp [labelSpecials]) ?_ text
  intro c hc
  simp only [labelSpecials, List.mem_cons, not_or] at hc
  simp [SlotKind.ofOpening?, hc]

theorem slotSpells_escapeText (k : SlotKind) (name : List Char) :
    k.Spells (escapeText [escapeChar, k.closing] name) name false := by
  refine spells_escapeText (by simp) ?_ name
  intro c hc
  exact SlotKind.closes_eq_none_iff.mpr fun h => hc (by simp [h])

/-- No closing delimiter is left unescaped. -/
theorem strayClosers_escapeText (pos : Nat) (text : List Char) :
    strayClosers pos (escapeText labelSpecials text) = [] := by
  induction text generalizing pos with
  | nil => rfl
  | cons c text ih =>
    rw [escapeText, List.flatMap_cons]
    split
    · exact ih _
    · next hc =>
      simp only [labelSpecials, List.mem_cons, not_or] at hc
      have hcloser : isCloser c = false := by simp [isCloser, hc]
      rw [List.singleton_append, strayClosers_plain hc.1, if_neg (by simp [hcloser])]
      exact ih _

/-- **What is written is read back**, behind characters that spell a label, if only one of
the two ends in a label. -/
theorem scan_written {ps : List Piece} (hps : Normal ps) (pos : Nat) {raw text : List Char}
    (h : LabelSpells raw text false) (hstrays : strayClosers pos raw = [])
    (hapart : text = [] ∨ SlotFirst ps) :
    (scan pos (raw ++ ps.flatMap Piece.written)).1.map Fragment.piece = labelPieces text ++ ps ∧
      (scan pos (raw ++ ps.flatMap Piece.written)).2 = [] := by
  induction ps generalizing pos raw text with
  | nil =>
    rw [List.flatMap_nil, List.append_nil, List.append_nil, scan_label pos h, hstrays]
    exact ⟨map_piece_labelFragment _ _, rfl⟩
  | cons p ps ih =>
    cases p with
    | label t =>
      obtain ⟨ht, hslot, hrest⟩ := normal_label_cons.mp hps
      -- the label is the first one, and what was read so far is nothing
      obtain rfl : text = [] :=
        hapart.resolve_right fun hfirst => absurd (hfirst _ rfl) (by simp [Piece.kind?])
      obtain rfl : raw = [] := h.eq_of_text_nil
      have hread := ih hrest pos (labelSpells_escapeText t.toList)
        (strayClosers_escapeText pos t.toList) (Or.inr hslot)
      rwa [labelPieces_toList ht] at hread
    | slot k name =>
      have hsplit : raw ++ (Piece.slot k name :: ps).flatMap Piece.written =
          raw ++ k.opening :: (escapeText [escapeChar, k.closing] name.toList ++
            k.closing :: ps.flatMap Piece.written) := by
        simp [Piece.written, SlotKind.enclose]
      have hread := fun stop => ih (normal_slot_cons.mp hps) stop .nil rfl (Or.inl rfl)
      rw [hsplit, scan_slot pos h (slotSpells_escapeText k name.toList), hstrays,
        List.map_append, List.map_cons, map_piece_labelFragment, String.ofList_toList]
      exact ⟨congrArg (labelPieces text ++ Piece.slot k name :: ·) (hread _).1, (hread _).2⟩

namespace Specifier

/-- **The normal lists are exactly those that can be read**, and their written form is read
without a warning, save that nothing was written.  In particular every specifier can be
written without one. -/
theorem normal_reads_back (source : Nat) :
    (∀ ps, Normal ps →
      (read source (write ps)).pieces = ps ∧
      (read source (write ps)).warnings = if ps = [] then [.nothing] else []) ∧
    (∀ text, Normal (read source text).pieces) ∧
    (∀ ps, (∃ text, (read source text).pieces = ps) ↔ Normal ps) ∧
    ∀ text, let ps := (read source text).pieces
      (read source (write ps)).pieces = ps ∧
      (read source (write ps)).warnings = if ps = [] then [.nothing] else [] := by
  have hback : ∀ ps, Normal ps →
      (read source (write ps)).pieces = ps ∧
      (read source (write ps)).warnings = if ps = [] then [.nothing] else [] := by
    intro ps hps
    obtain ⟨hpieces, hwarnings⟩ := scan_written hps 0 .nil rfl (Or.inl rfl)
    rw [List.nil_append, labelPieces_nil, List.nil_append] at hpieces
    rw [List.nil_append] at hwarnings
    have hempty : (scan 0 (ps.flatMap Piece.written)).1 = [] ↔ ps = [] := by
      rw [← List.map_eq_nil_iff (f := Fragment.piece), hpieces]
    refine ⟨by simpa [pieces, read, write] using hpieces, ?_⟩
    simp [read, write, hwarnings, hempty]
  have hnormal : ∀ text, Normal (read source text).pieces := fun text => normal_scan 0 text.toList
  refine ⟨hback, hnormal, ?_, fun text => hback _ (hnormal text)⟩
  intro ps
  constructor
  · rintro ⟨text, rfl⟩
    exact hnormal text
  · exact fun hps => ⟨write ps, (hback ps hps).1⟩

/-- Labels and names full of delimiters, a slot without a name, and a label of one
delimiter. -/
theorem normal_reads_back_delimiters :
    let ps : List Piece := [.label "a_[b]>", .slot .string "x]_(", .slot .boolean "", .label ")"]
    Normal ps ∧ write ps = "a___[b_]_>[x_]__(]<>_)" ∧
      (read 3 (write ps)).pieces = ps ∧ (read 3 (write ps)).warnings = [] := by
  intro ps
  have hps : Normal ps := ⟨by decide, by decide⟩
  obtain ⟨hpieces, hwarnings⟩ := (normal_reads_back 3).1 ps hps
  exact ⟨hps, by decide, hpieces, hwarnings⟩

end Specifier
end ReporterBlocks
