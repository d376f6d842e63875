import ReporterBlocks.Block.Row
import ReporterBlocks.Proofs.Specifier.Writing

/-! # The slots that a row shows

The host reads the template of a row as plain text and takes each token in it for an
argument slot (`placeholders`).  Label texts and slot names are put into templates as they
are, and nothing keeps a token in them from being one.  So a row shows what its block is
meant to show, among the tokens that the texts spell (`slots_rows`), and it shows nothing
else only if they spell none (`showsSlots_iff`).

No token is spelt by two texts together: no two labels stand side by side, and all that
is put around a text begins with a character that ends no token.
-/

namespace ReporterBlocks

/-! ## Reading a template -/

/-- The slot whose token a text begins with. -/
def SlotKind.ofToken? : List Char → Option SlotKind
  | '%' :: 's' :: _ => some string
  | '%' :: 'n' :: _ => some number
  | '%' :: 'b' :: _ => some boolean
  | _ => none

/-- The slots that the host reads in a text, from left to right.  No token begins inside
another one, so every place may be looked at. -/
def placeholders : List Char → List SlotKind
  | [] => []
  | c :: cs => (SlotKind.ofToken? (c :: cs)).toList ++ placeholders cs

/-- The characters that end a token. -/
def tokenEnds : List Char := ['s', 'n', 'b']

/-- The text does not begin in the middle of a token. -/
def Apart (cs : List Char) : Prop := ∀ c ∈ cs.head?, c ∉ tokenEnds

namespace SlotKind

theorem ofToken?_of_ne {c : Char} (hc : c ≠ '%') (cs : List Char) : ofToken? (c :: cs) = none := by
  simp [ofToken?, hc]

theorem ofToken?_cons_cons (c d : Char) (cs : List Char) :
    ofToken? (c :: d :: cs) = ofToken? [c, d] := by
  by_cases hc : c = '%'
  · simp only [hc, ofToken?]
    split <;> simp_all
  · rw [ofToken?_of_ne hc, ofToken?_of_ne hc]

theorem ofToken?_percent {cs : List Char} (hcs : Apart cs) : ofToken? ('%' :: cs) = none := by
  cases cs with
  | nil => decide
  | cons c cs =>
    have hc : c ∉ tokenEnds := hcs c rfl
    simp only [tokenEnds, List.mem_cons, not_or] at hc
    simp [ofToken?, hc]

end SlotKind

theorem placeholders_cons {c : Char} (hc : c ≠ '%') (cs : List Char) :
    placeholders (c :: cs) = placeholders cs := by
  rw [placeholders, SlotKind.ofToken?_of_ne hc]
  rfl

/-- Nothing is read in a text without the character that begins a token. -/
theorem placeholders_plain {cs : List Char} (hcs : '%' ∉ cs) (ds : List Char) :
    placeholders (cs ++ ds) = placeholders ds := by
  induction cs with
  | nil => rfl
  | cons c cs ih =>
    rw [List.mem_cons, not_or] at hcs
    rw [List.cons_append, placeholders_cons (Ne.symm hcs.1), ih hcs.2]

theorem placeholders_token (k : SlotKind) (cs : List Char) :
    placeholders (k.token.toList ++ cs) = k :: placeholders cs := by
  cases k <;> rfl

/-- Texts that are put together spell what each of them spells. -/
theorem placeholders_append (cs : List Char) {ds : List Char} (hds : Apart ds) :
    placeholders (cs ++ ds) = placeholders cs ++ placeholders ds := by
  induction cs with
  | nil => rfl
  | cons c cs ih =>
    have htoken : SlotKind.ofToken? (c :: (cs ++ ds)) = SlotKind.ofToken? (c :: cs) := by
      cases cs with
      | cons d cs =>
        rw [List.cons_append, SlotKind.ofToken?_cons_cons, SlotKind.ofToken?_cons_cons c d cs]
      | nil =>
        by_cases hc : c = '%'
        · rw [hc, List.nil_append, SlotKind.ofToken?_percent hds]
          decide
        · rw [SlotKind.ofToken?_of_ne hc, SlotKind.ofToken?_of_ne hc]
    rw [List.cons_append, placeholders, placeholders, htoken, ih, List.append_assoc]

theorem placeholders_cons_append {c : Char} (hc : c ∉ tokenEnds) (cs ds : List Char) :
    placeholders (cs ++ c :: ds) = placeholders cs ++ placeholders (c :: ds) := by
  refine placeholders_append cs ?_
  rintro d ⟨⟩
  exact hc

/-! ## Texts in a template -/

/-- The slots that the texts of a list of pieces spell. -/
def spelt (ps : List Piece) : List SlotKind := ps.flatMap fun p => placeholders p.text.toList

/-- The slots that a piece shows in the block that calls the reporter. -/
def Piece.called : Piece → List SlotKind
  | label t => placeholders t.toList
  | slot k _ => [k]

/-- The text of a piece in the block that calls the reporter. -/
def Piece.callText : Piece → String
  | label t => t
  | slot k _ => k.token

theorem Template.toText_addPiece (p : Piece) (t : Template) :
    (addPiece p t).toText = p.callText ++ t.toText := by
  cases p with
  | slot k name => simp [addPiece, addSlot, toText, partText, Piece.callText]
  | label text =>
    by_cases htext : text = ""
    · simp [addPiece, addText, Piece.callText, htext]
    · -- the text is merged into one that is there
      rcases t with _ | ⟨rest | k, parts⟩ <;>
        simp [addPiece, addText, htext, Piece.callText, toText, partText, String.append_assoc]

theorem Template.toText_ofPieces (ps : List Piece) :
    (ofPieces ps).toText.toList = ps.flatMap fun p => p.callText.toList := by
  induction ps with
  | nil => rfl
  | cons p ps ih =>
    rw [ofPieces, List.foldr_cons, toText_addPiece, String.toList_append, List.flatMap_cons, ← ih]
    rfl

theorem toList_displayText (ps : List Piece) :
    (Definition.displayText ps).toList = ps.flatMap fun p => p.display.toList := by
  rw [Definition.displayText, String.toList_join, List.flatMap_map]

/-- **A way to put pieces down**, and the slots that the host reads in each: a label is put
down as it is, and a slot begins with a character that ends no token. -/
structure Shows (put : Piece → List Char) (shown : Piece → List SlotKind) : Prop where
  put_label : ∀ t, put (.label t) = t.toList
  shown_label : ∀ t, shown (.label t) = placeholders t.toList
  put_slot : ∀ k name, ∃ c cs, put (.slot k name) = c :: cs ∧ c ∉ tokenEnds
  shown_slot : ∀ k name rest,
    placeholders (put (.slot k name) ++ rest) = shown (.slot k name) ++ placeholders rest

/-- **Pieces that are put down in a row** show what each of them shows. -/
theorem Shows.placeholders_flatMap {put : Piece → List Char} {shown : Piece → List SlotKind}
    (h : Shows put shown) {ps : List Piece} (hps : Normal ps) :
    placeholders (ps.flatMap put) = ps.flatMap shown := by
  induction ps with
  | nil => rfl
  | cons p ps ih =>
    rw [List.flatMap_cons, List.flatMap_cons]
    cases p with
    | slot k name => rw [h.shown_slot, ih (normal_slot_cons.mp hps)]
    | label t =>
      obtain ⟨-, hslot, hrest⟩ := normal_label_cons.mp hps
      rw [h.put_label, h.shown_label, ← ih hrest]
      refine placeholders_append t.toList ?_
      -- a slot follows the label, or nothing does
      rcases ps with _ | ⟨_ | ⟨k, name⟩, ps⟩
      · exact fun c hc => by cases hc
      · exact absurd (hslot _ rfl) (by simp [Piece.kind?])
      · obtain ⟨c, cs, hput, hc⟩ := h.put_slot k name
        rw [List.flatMap_cons, hput]
        rintro d ⟨⟩
        exact hc

theorem shows_display : Shows (fun p => p.display.toList) fun p => placeholders p.text.toList where
  put_label _ := rfl
  shown_label _ := rfl
  put_slot k name := ⟨k.opening, name.toList ++ [k.closing, ' '], by simp [Piece.display],
    by cases k <;> decide⟩
  shown_slot k name rest := by
    have hopening : k.opening ≠ '%' := by cases k <;> decide
    have hclosing : k.closing ≠ '%' ∧ k.closing ∉ tokenEnds := by cases k <;> decide
    have hput : (Piece.slot k name).display.toList ++ rest =
        k.opening :: (name.toList ++ k.closing :: ' ' :: rest) := by simp [Piece.display]
    rw [hput, placeholders_cons hopening, placeholders_cons_append hclosing.2,
      placeholders_cons hclosing.1, placeholders_cons (by decide)]
    rfl

theorem shows_call : Shows (fun p => p.callText.toList) Piece.called where
  put_label _ := rfl
  shown_label _ := rfl
  put_slot k _ := ⟨'%', k.token.toList.tail, by cases k <;> simp [Piece.callText, SlotKind.token],
    by decide⟩
  shown_slot k _ rest := placeholders_token k rest

/-! ## What a call is meant to show -/

theorem slots_parameters (ps : List Piece) (result : ValueKind) :
    (Definition.ofPieces ps result).parameters.map Parameter.slot = ps.filterMap Piece.kind? := by
  rw [Definition.ofPieces, List.map_filterMap]
  congr 1
  funext p
  cases p <;> rfl

theorem kinds_sublist_called (ps : List Piece) :
    (ps.filterMap Piece.kind?).Sublist (ps.flatMap Piece.called) := by
  induction ps with
  | nil => exact .slnil
  | cons p ps ih =>
    cases p with
    | label t => exact ih.trans (List.sublist_append_right _ _)
    | slot k name => exact ih.cons_cons k

/-- A call shows its slots and no others exactly if the labels spell none. -/
theorem called_eq_iff (ps : List Piece) :
    ps.flatMap Piece.called = ps.filterMap Piece.kind? ↔
      ∀ t, Piece.label t ∈ ps → placeholders t.toList = [] := by
  induction ps with
  | nil => simp
  | cons p ps ih =>
    cases p with
    | slot k name => simpa [Piece.called, Piece.kind?] using ih
    | label t =>
      have hsplit : placeholders t.toList ++ ps.flatMap Piece.called = ps.filterMap Piece.kind? ↔
          placeholders t.toList = [] ∧ ps.flatMap Piece.called = ps.filterMap Piece.kind? := by
        constructor
        · intro heq
          -- what the label spells would be one slot too many
          have hnil : placeholders t.toList = [] := by
            have hlength := (kinds_sublist_called ps).length_le
            rw [← heq, List.length_append] at hlength
            exact List.length_eq_zero_iff.mp (by omega)
          rw [hnil, List.nil_append] at heq
          exact ⟨hnil, heq⟩
        · rintro ⟨hnil, heq⟩
          rw [hnil, List.nil_append, heq]
      rw [List.flatMap_cons, List.filterMap_cons_none rfl]
      refine hsplit.trans ((and_congr_right fun _ => ih).trans ?_)
      simp only [List.mem_cons, Piece.label.injEq, forall_eq_or_imp]

/-! ## Rows -/

/-- The slots that the host reads in the template of a row. -/
def Row.slots (r : Row) : List SlotKind := placeholders r.template.toList

/-- **Every row shows what its block is run with**: the call one slot for each parameter,
the answer one slot for the value, and the other rows none. -/
def Definition.ShowsSlots (d : Definition) : Prop :=
  d.rows.map Row.slots = [] :: d.parameters.map Parameter.slot ::
    [if d.result = .boolean then .boolean else .string] :: d.parameters.map fun _ => []

theorem ValueKind.slot_eq (kind : ValueKind) :
    kind.slot = if kind = .boolean then .boolean else .string := by
  cases kind <;> rfl

section Rows
variable {ps : List Piece} (hps : Normal ps) (result : ValueKind)
include hps

theorem placeholders_displayText : placeholders (Definition.displayText ps).toList = spelt ps := by
  rw [toList_displayText]
  exact shows_display.placeholders_flatMap hps

theorem slots_hatRow : (Definition.ofPieces ps result).hatRow.slots = spelt ps := by
  rw [← placeholders_displayText hps, Row.slots, Definition.hatRow, String.toList_append]
  exact placeholders_plain (by decide) _

theorem slots_callRow :
    (Definition.ofPieces ps result).callRow.slots = ps.flatMap Piece.called := by
  rw [← shows_call.placeholders_flatMap hps, ← Template.toText_ofPieces]
  rfl

theorem slots_answerRow :
    (Definition.ofPieces ps result).answerRow.slots =
      (if result = .boolean then .boolean else .string) :: spelt ps := by
  rw [← result.slot_eq, ← placeholders_displayText hps, Row.slots, Definition.answerRow]
  simp only [String.toList_append, List.append_assoc]
  rw [placeholders_plain (by decide), placeholders_token, placeholders_plain (by decide)]
  rfl

theorem slots_readRow (index : Nat) (p : Parameter) :
    ((Definition.ofPieces ps result).readRow index p).slots =
      placeholders p.name.toList ++ spelt ps := by
  rw [← placeholders_displayText hps, Row.slots, Definition.readRow]
  simp only [String.toList_append, List.append_assoc]
  rw [placeholders_append]
  · rw [placeholders_plain (by decide)]
    rfl
  · rintro c ⟨⟩
    decide

theorem slots_rows :
    let d := Definition.ofPieces ps result
    d.rows.map Row.slots = spelt ps :: ps.flatMap Piece.called ::
      ((if result = .boolean then .boolean else .string) :: spelt ps) ::
      d.parameters.map fun p => placeholders p.name.toList ++ spelt ps := by
  intro d
  have hreads : (d.parameters.mapIdx d.readRow).map Row.slots =
      d.parameters.map fun p => placeholders p.name.toList ++ spelt ps := by
    refine List.ext_getElem (by simp) ?_
    intro index _ _
    rw [List.getElem_map, List.getElem_map, List.getElem_mapIdx]
    exact slots_readRow hps result index _
  rw [Definition.rows, List.map_cons, List.map_cons, List.map_cons, hreads,
    slots_hatRow hps, slots_callRow hps, slots_answerRow hps]

theorem slots_callRow_eq_iff :
    let d := Definition.ofPieces ps result
    d.callRow.slots = d.parameters.map Parameter.slot ↔
      ∀ t, Piece.label t ∈ ps → placeholders t.toList = [] := by
  intro d
  rw [slots_callRow hps, slots_parameters, called_eq_iff]

theorem showsSlots_iff :
    (Definition.ofPieces ps result).ShowsSlots ↔ ∀ p ∈ ps, placeholders p.text.toList = [] := by
  rw [Definition.ShowsSlots, slots_rows hps,
    ← List.flatMap_eq_nil_iff (f := fun p : Piece => placeholders p.text.toList)]
  constructor
  · exact fun h => (List.cons.inj h).1
  · intro (hspelt : spelt ps = [])
    have htexts : ∀ p ∈ ps, placeholders p.text.toList = [] := List.flatMap_eq_nil_iff.mp hspelt
    have hcalled : ps.flatMap Piece.called =
        (Definition.ofPieces ps result).parameters.map Parameter.slot := by
      rw [slots_parameters, called_eq_iff]
      exact fun t ht => htexts _ ht
    have hnames : ∀ p ∈ (Definition.ofPieces ps result).parameters,
        placeholders p.name.toList ++ spelt ps = [] := by
      intro p hp
      obtain ⟨piece, hpiece, hparameter⟩ := List.mem_filterMap.mp hp
      cases piece with
      | label t => cases hparameter
      | slot k name =>
        cases hparameter
        rw [hspelt, List.append_nil]
        exact htexts _ hpiece
    rw [List.map_congr_left hnames, hcalled, hspelt]
    rfl

end Rows

namespace Definition

/-- **Every row shows the tokens that its texts spell**, among the slots that it is meant to
show, which for the row of the answer is the one of the result: those of all labels and names
in the row of the script, those of the labels in the row of the call, and those of the display
name in the others.  So the call shows what it is meant to exactly if no label spells a token,
and all the rows do exactly if no text does. -/
theorem rows_show_texts (spec : String) (result : ValueKind) :
    let ps := (Specifier.read 0 spec).pieces
    let d := ofText spec result
    d.rows.map Row.slots = spelt ps :: ps.flatMap Piece.called ::
        ((if result = .boolean then .boolean else .string) :: spelt ps) ::
        d.parameters.map (fun p => placeholders p.name.toList ++ spelt ps) ∧
    (d.callRow.slots = d.parameters.map Parameter.slot ↔
      ∀ t, Piece.label t ∈ ps → placeholders t.toList = []) ∧
    (d.ShowsSlots ↔ ∀ p ∈ ps, placeholders p.text.toList = []) := by
  have hps : Normal (Specifier.read 0 spec).pieces := normal_scan 0 spec.toList
  exact ⟨slots_rows hps result, slots_callRow_eq_iff hps result, showsSlots_iff hps result⟩

/-- A label that spells the token of a string slot: already the row of the script shows a
slot. -/
theorem not_showsSlots_percent : ¬ (ofText "100%sure" .reporter).ShowsSlots := by
  have hhat : (ofText "100%sure" .reporter).hatRow.slots = [.string] := by decide +kernel
  intro h
  exact List.cons_ne_nil _ _ (hhat.symm.trans (List.cons.inj h).1)

end Definition
end ReporterBlocks
