import ReporterBlocks.Proofs.Specifier.Displaying

/-! # The signature of a definition

A definition keeps its signature twice.  The template of its call has a slot for each
argument between the texts of the labels, and the list of its parameters has their names
and kinds.  Both are worked out from the pieces, which may be any list: labels can be empty
and can stand side by side.

The template is built from its end, and each label joins the text that it meets, so that it
stays `Compact` (`compact_ofPieces`).  What a label adds is its text before the first slot
behind it, and what a slot adds is one place between texts; therefore the slots of the
template are those of the parameters, and the texts between them are the labels that stand
there (`call_shows_parameters`).
-/

namespace ReporterBlocks

/-- The kind of a part that is a slot. -/
def TemplatePart.kind? : TemplatePart → Option SlotKind
  | .text _ => none
  | .slot kind => some kind

/-! ## Texts between slots -/

section Between
variable {α : Type} {isSlot : α → Bool} {text : α → String} {a : α}

/-- The text before the first slot of a list, the texts between two slots and the one behind
the last, where all that stands in one place is joined. -/
def textsBetween (isSlot : α → Bool) (text : α → String) (l : List α) : List String :=
  (l.splitOnP isSlot).map fun group => String.join (group.map text)

theorem textsBetween_slot_cons (ha : isSlot a = true) (l : List α) :
    textsBetween isSlot text (a :: l) = "" :: textsBetween isSlot text l := by
  rw [textsBetween, List.splitOnP_cons_eq_if_modifyHead, if_pos ha, List.map_cons]
  rfl

theorem textsBetween_text_cons (ha : isSlot a = false) (l : List α) :
    textsBetween isSlot text (a :: l) = (textsBetween isSlot text l).modifyHead (text a ++ ·) := by
  obtain ⟨group, groups, hgroups⟩ := List.exists_cons_of_ne_nil (List.splitOnP_ne_nil isSlot l)
  rw [textsBetween, List.splitOnP_cons_eq_if_modifyHead, ha, if_neg Bool.false_ne_true,
    textsBetween, hgroups, List.modifyHead_cons, List.map_cons, List.map_cons, List.map_cons,
    String.join_cons, List.modifyHead_cons]

end Between

/-- The labels before the first slot of a list of pieces, between two slots and behind the
last, joined. -/
def labelTexts (ps : List Piece) : List String :=
  textsBetween (fun p => p.kind?.isSome) Piece.text ps

namespace Template

/-- The argument slots of a template, in order. -/
def slots (t : Template) : List SlotKind :=
  t.filterMap fun
    | .text _ => none
    | .slot kind => some kind

/-- The texts of a template before its first slot, between two slots and behind the last. -/
def texts (t : Template) : List String :=
  textsBetween (fun p => p.kind?.isSome) partText t

/-- **Texts are merged**: none is empty, and of two neighbours one is a slot. -/
structure Compact (t : Template) : Prop where
  nonempty : TemplatePart.text "" ∉ t
  apart : t.IsChain fun p q => p.kind?.isSome ∨ q.kind?.isSome

/-! ## What a piece adds -/

theorem slots_addPiece (p : Piece) (t : Template) :
    (addPiece p t).slots = p.kind?.toList ++ t.slots := by
  cases p with
  | slot kind name => rfl
  | label text =>
    by_cases htext : text = ""
    · simp [addPiece, addText, htext, Piece.kind?]
    · -- no text is a slot, whether it is merged into one that is there or not
      rcases t with _ | ⟨rest | kind, parts⟩ <;>
        simp [addPiece, addText, htext, slots, Piece.kind?]

theorem addText_empty (t : Template) : addText "" t = t := if_pos rfl

/-- Text joins the text that it is put in front of, and stays apart from a slot. -/
theorem addText_of_ne {text : String} (htext : text ≠ "") :
    addText text [] = [.text text] ∧
    (∀ rest parts, addText text (.text rest :: parts) = .text (text ++ rest) :: parts) ∧
    ∀ kind parts, addText text (.slot kind :: parts) = .text text :: .slot kind :: parts :=
  ⟨if_neg htext, fun _ _ => if_neg htext, fun _ _ => if_neg htext⟩

theorem texts_text_cons (text : String) (t : Template) :
    texts (.text text :: t) = t.texts.modifyHead (text ++ ·) :=
  textsBetween_text_cons rfl t

theorem texts_addText (text : String) (t : Template) :
    (addText text t).texts = t.texts.modifyHead (text ++ ·) := by
  by_cases htext : text = ""
  · obtain ⟨first, others, htexts⟩ : ∃ first others, t.texts = first :: others := by
      refine List.exists_cons_of_ne_nil fun hnil => ?_
      exact List.splitOnP_ne_nil _ t (List.map_eq_nil_iff.mp hnil)
    rw [htext, addText_empty, htexts, List.modifyHead_cons, String.empty_append]
  · obtain ⟨hnil, htexts, hslots⟩ := addText_of_ne htext
    rcases t with _ | ⟨rest | kind, parts⟩
    · rw [hnil, texts_text_cons]
    · rw [htexts, texts_text_cons, texts_text_cons, List.modifyHead_modifyHead]
      simp only [Function.comp_def, String.append_assoc]
    · rw [hslots, texts_text_cons]

theorem compact_text_cons {text : String} {t : Template} :
    Compact (.text text :: t) ↔
      text ≠ "" ∧ (∀ p ∈ t.head?, p.kind?.isSome = true) ∧ t.Compact := by
  constructor
  · rintro ⟨hnonempty, hapart⟩
    rw [List.mem_cons, not_or] at hnonempty
    obtain ⟨hhead, htail⟩ := List.isChain_cons.mp hapart
    exact ⟨fun he => hnonempty.1 (he ▸ rfl),
      fun p hp => (hhead p hp).resolve_left (by simp [TemplatePart.kind?]), hnonempty.2, htail⟩
  · rintro ⟨htext, hslot, hnonempty, hapart⟩
    refine ⟨?_, List.isChain_cons.mpr ⟨fun p hp => Or.inr (hslot p hp), hapart⟩⟩
    rw [List.mem_cons, not_or]
    exact ⟨fun he => htext (TemplatePart.text.inj he).symm, hnonempty⟩

theorem compact_addText (text : String) {t : Template} (ht : t.Compact) :
    (addText text t).Compact := by
  by_cases htext : text = ""
  · rwa [htext, addText_empty]
  · obtain ⟨hnil, htexts, hslots⟩ := addText_of_ne htext
    rcases t with _ | ⟨rest | kind, parts⟩
    · rw [hnil]
      exact compact_text_cons.mpr ⟨htext, by simp, ht⟩
    · obtain ⟨-, hslot, hparts⟩ := compact_text_cons.mp ht
      rw [htexts]
      exact compact_text_cons.mpr
        ⟨fun he => htext (String.append_eq_empty_iff.mp he).1, hslot, hparts⟩
    · rw [hslots]
      exact compact_text_cons.mpr ⟨htext, by simp [TemplatePart.kind?], ht⟩

/-! ## What all pieces come to -/

theorem ofPieces_cons (p : Piece) (ps : List Piece) :
    ofPieces (p :: ps) = addPiece p (ofPieces ps) := rfl

theorem slots_ofPieces (ps : List Piece) : (ofPieces ps).slots = ps.filterMap Piece.kind? := by
  induction ps with
  | nil => rfl
  | cons p ps ih =>
    rw [ofPieces, List.foldr_cons, slots_addPiece, List.filterMap_cons, ← ih]
    cases p.kind? <;> rfl

/-- **The texts of a template** are the labels, each in its place between the slots. -/
theorem texts_ofPieces (ps : List Piece) : (ofPieces ps).texts = labelTexts ps := by
  induction ps with
  | nil => rfl
  | cons p ps ih =>
    rw [ofPieces_cons, labelTexts]
    cases p with
    | label text =>
      rw [textsBetween_text_cons rfl, ← labelTexts, ← ih]
      exact texts_addText text _
    | slot kind name =>
      rw [textsBetween_slot_cons rfl, ← labelTexts, ← ih]
      exact textsBetween_slot_cons rfl _

theorem compact_ofPieces (ps : List Piece) : (ofPieces ps).Compact := by
  induction ps with
  | nil => exact ⟨List.not_mem_nil, .nil⟩
  | cons p ps ih =>
    rw [ofPieces_cons]
    cases p with
    | label text => exact compact_addText text ih
    | slot kind name =>
      refine ⟨?_, List.isChain_cons.mpr ⟨fun p _ => Or.inl rfl, ih.apart⟩⟩
      rw [addPiece, addSlot, List.mem_cons, not_or]
      exact ⟨TemplatePart.noConfusion, ih.nonempty⟩

end Template

/-! ## Parameters -/

/-- **The piece declares the parameter**: it is a slot of its name and kind, and the
parameter is read as a truth value exactly if the host shows the slot as one. -/
structure Piece.Declares (piece : Piece) (p : Parameter) : Prop where
  name : p.name = piece.text
  slot : piece.kind? = some p.slot
  kind : p.kind = .boolean ↔ p.slot.token = "%b"

theorem forall₂_declares (ps : List Piece) :
    List.Forall₂ Piece.Declares (ps.filter fun p => p.kind?.isSome)
      (ps.filterMap Piece.parameter?) := by
  induction ps with
  | nil => exact .nil
  | cons p ps ih =>
    cases p with
    | label text => exact ih
    | slot kind name =>
      refine .cons ⟨rfl, rfl, ?_⟩ ih
      cases kind <;> simp [SlotKind.valueKind, SlotKind.token]

namespace Definition

/-- **The call shows the parameters.**  Whatever pieces a definition is made of, its call has
no empty text and no two texts side by side; its slots are those of the parameters, which
the slots among the pieces declare one by one; and the texts before, between and behind them
are the labels that stand there.  In what is read from a text nothing is left to be merged,
so that every piece is one part of the template. -/
theorem call_shows_parameters (result : ValueKind) :
    (∀ ps : List Piece,
      let d := ofPieces ps result
      d.callTemplate.Compact ∧
      d.callTemplate.slots = d.parameters.map Parameter.slot ∧
      List.Forall₂ Piece.Declares (ps.filter fun p => p.kind?.isSome) d.parameters ∧
      d.callTemplate.texts = labelTexts ps) ∧
    ∀ source spec,
      let ps := (Specifier.read source spec).pieces
      (ofPieces ps result).callTemplate = ps.map Piece.part := by
  constructor
  · intro ps d
    have hslots : d.callTemplate.slots = d.parameters.map Parameter.slot :=
      (Template.slots_ofPieces ps).trans (slots_parameters ps result).symm
    exact ⟨Template.compact_ofPieces ps, hslots, forall₂_declares ps, Template.texts_ofPieces ps⟩
  · intro source spec
    exact Template.ofPieces_of_normal (normal_scan 0 spec.toList)

/-- Labels side by side are one text, and an empty one is none. -/
example : (ofPieces [.label "a", .label "", .label "b", .slot .number "n", .label "",
    .slot .boolean "", .label "c"] .reporter).callTemplate =
    [.text "ab", .slot .number, .slot .boolean, .text "c"] := by
  decide +kernel

end Definition
end ReporterBlocks
