import ReporterBlocks.Proofs.Specifier.Bytes
import ReporterBlocks.Proofs.Specifier.Spelling

/-! # How a specifier is laid out

Characters that spell a label are followed by nothing, by a slot that is never closed, or
by a slot and a further layout.  `Layout cs` says that `cs` is of this form, and every text
is (`layout`).  For each of the three forms there is an equation for `scan`, so that what
is true of all specifiers is proved by induction on the layout, without opening `scan`.
-/

namespace ReporterBlocks

namespace SlotKind

theorem opening_ne_escapeChar (k : SlotKind) : k.opening ≠ escapeChar := by
  cases k <;> decide

theorem closing_ne_escapeChar (k : SlotKind) : k.closing ≠ escapeChar := by
  cases k <;> decide

theorem closes_closing (k : SlotKind) : k.closes k.closing = some () := if_pos rfl

theorem closes_eq_none_iff {k : SlotKind} {c : Char} : k.closes c = none ↔ c ≠ k.closing := by
  rw [closes]
  split <;> simp_all

theorem eq_closing_of_closes {k : SlotKind} {c : Char} {u : Unit} (h : k.closes c = some u) :
    c = k.closing := by
  rw [closes] at h
  split at h
  · assumption
  · contradiction

end SlotKind

/-- Characters that spell the text of a label. -/
abbrev LabelSpells : List Char → List Char → Bool → Prop := Spells SlotKind.ofOpening?

/-- Characters that spell the name of a slot. -/
abbrev SlotKind.Spells (k : SlotKind) : List Char → List Char → Bool → Prop :=
  ReporterBlocks.Spells k.closes

/-- The characters of a slot, with the delimiters around its name. -/
def SlotKind.enclose (k : SlotKind) (name : List Char) : List Char :=
  k.opening :: (name ++ [k.closing])

/-- **The forms of a specifier.** -/
inductive Layout : List Char → Prop
  /-- A label, which may be empty. -/
  | label {raw text : List Char} {dangling : Bool} (h : LabelSpells raw text dangling) :
      Layout raw
  /-- A label and a slot that is never closed. -/
  | unclosed {raw text : List Char} (h : LabelSpells raw text false) (k : SlotKind)
      {body name : List Char} {dangling : Bool} (hname : k.Spells body name dangling) :
      Layout (raw ++ k.opening :: body)
  /-- A label, a slot, and what comes behind it. -/
  | slot {raw text : List Char} (h : LabelSpells raw text false) (k : SlotKind)
      {body name : List Char} (hname : k.Spells body name false) {rest : List Char}
      (hrest : Layout rest) : Layout (raw ++ k.opening :: (body ++ k.closing :: rest))

/-- **Every text is laid out in one of the forms.** -/
theorem layout (cs : List Char) : Layout cs := by
  -- what stands behind a slot is shorter
  induction hlength : cs.length using Nat.strongRecOn generalizing cs with
  | ind n ih =>
    rcases spells_or_stops SlotKind.ofOpening? cs with
      ⟨text, dangling, h⟩ | ⟨raw, text, c, k, rest, rfl, h, -, hopens⟩
    · exact .label h
    · obtain rfl := SlotKind.eq_opening_of_ofOpening? hopens
      rcases spells_or_stops k.closes rest with
        ⟨name, dangling, hname⟩ | ⟨body, name, c, u, rest, rfl, hname, -, hcloses⟩
      · exact .unclosed h k hname
      · obtain rfl := SlotKind.eq_closing_of_closes hcloses
        refine .slot h k hname (ih rest.length ?_ rest rfl)
        simp only [List.length_append, List.length_cons] at hlength
        omega

/-! ## What is read from each form -/

/-- The warning about an escape of nothing at the end of the characters before `stop`. -/
def danglingWarning (dangling : Bool) (stop : Nat) : List Warning :=
  if dangling then [.danglingEscape (stop - escapeChar.utf8Size)] else []

/-- Label text that begins with an unescaped character. -/
theorem strayClosers_plain {c : Char} (hc : c ≠ escapeChar) (pos : Nat) (cs : List Char) :
    strayClosers pos (c :: cs) =
      (if isCloser c then [.strayCloser c pos] else []) ++
        strayClosers (pos + c.utf8Size) cs := by
  rw [strayClosers.eq_def]
  simp only [if_neg hc]
  split <;> rfl

theorem labelFragment_eq_nil_iff {text : List Char} {span : Span} :
    labelFragment text span = [] ↔ text = [] := by
  rw [labelFragment]
  split <;> simp [*]

section Scan
variable {raw text body name : List Char} {dangling : Bool} {k : SlotKind} (pos : Nat)

theorem scan_label (h : LabelSpells raw text dangling) :
    scan pos raw = (labelFragment text ⟨pos, pos + byteLength raw⟩,
      strayClosers pos raw ++ danglingWarning dangling (pos + byteLength raw)) := by
  have hlabel := h.read_all
  rw [scan]
  split
  next => rw [hlabel]; rfl
  next hnext => rw [hlabel] at hnext; cases hnext

theorem scan_unclosed (h : LabelSpells raw text false) (hname : k.Spells body name dangling) :
    let start := pos + byteLength raw
    let span : Span := ⟨start, start + byteLength (k.opening :: body)⟩
    scan pos (raw ++ k.opening :: body) =
      (labelFragment text ⟨pos, start⟩ ++ [⟨.slot k (String.ofList name), span⟩],
        strayClosers pos raw ++ danglingWarning dangling span.stop ++
          [.unterminatedSlot k span]) := by
  have hlabel := h.read_stop k.opening_ne_escapeChar k.ofOpening?_opening body
  rw [scan]
  split
  next hnext => rw [hlabel] at hnext; cases hnext
  next hnext =>
    rw [hlabel] at hnext
    cases hnext
    dsimp only
    split
    next =>
      rw [hlabel, hname.read_all]
      simp [Chunk.escapeWarning, danglingWarning, Nat.add_assoc]
    next hnext => rw [hname.read_all] at hnext; cases hnext

theorem scan_slot (h : LabelSpells raw text false) (hname : k.Spells body name false)
    (rest : List Char) :
    let start := pos + byteLength raw
    let stop := start + byteLength (k.enclose body)
    scan pos (raw ++ k.opening :: (body ++ k.closing :: rest)) =
      (labelFragment text ⟨pos, start⟩ ++
          ⟨.slot k (String.ofList name), ⟨start, stop⟩⟩ :: (scan stop rest).1,
        strayClosers pos raw ++ (scan stop rest).2) := by
  have hlabel :=
    h.read_stop k.opening_ne_escapeChar k.ofOpening?_opening (body ++ k.closing :: rest)
  have hslot := hname.read_stop k.closing_ne_escapeChar k.closes_closing rest
  rw [scan]
  split
  next hnext => rw [hlabel] at hnext; cases hnext
  next hnext =>
    rw [hlabel] at hnext
    cases hnext
    dsimp only
    split
    next hnext => rw [hslot] at hnext; cases hnext
    next hnext =>
      rw [hslot] at hnext
      cases hnext
      rw [hlabel, hslot]
      simp [Chunk.escapeWarning, SlotKind.enclose, Nat.add_assoc]

end Scan

/-- Nothing is read from nothing and from an escape of nothing alone. -/
theorem scan_eq_nil_iff (pos : Nat) (cs : List Char) :
    (scan pos cs).1 = [] ↔ cs = [] ∨ cs = [escapeChar] := by
  cases layout cs with
  | @label raw text dangling h =>
    rw [scan_label pos h, labelFragment_eq_nil_iff]
    constructor
    · rintro rfl
      cases dangling
      · exact Or.inl h.eq_of_text_nil
      · exact Or.inr h.eq_of_text_nil
    · rintro (rfl | rfl)
      · cases h
        rfl
      · cases h with
        | dangling => rfl
        | plain _ hc => exact absurd rfl hc
  | unclosed h k hname =>
    rw [scan_unclosed pos h hname]
    simp [List.append_eq_singleton_iff, k.opening_ne_escapeChar]
  | slot h k hname =>
    rw [scan_slot pos h hname]
    simp [List.append_eq_singleton_iff, k.opening_ne_escapeChar]

end ReporterBlocks
