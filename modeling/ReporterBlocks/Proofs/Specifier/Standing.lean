import Mathlib.Algebra.Ring.Parity
import Mathlib.Data.List.DropRight
import ReporterBlocks.Proofs.Specifier.Layout

/-! # Where a character stands

Read one at a time from the start, the characters of a text tell of each place in it
whether a slot is open there and whether the character that stands there is escaped.
`standing before` is what they tell of the place behind `before`.

A character is escaped exactly if an odd number of escape characters stands directly
before it (`standing_escaped_iff`).  Behind a label that is not cut short by the end of
the text no slot is open, and none behind a slot that is closed (`standing_slot`), so what
follows is read as if it stood at the start.
-/

namespace ReporterBlocks

/-- The number of escape characters at the end of a text. -/
def escapeRun (cs : List Char) : Nat := (cs.rtakeWhile (· = escapeChar)).length

theorem escapeRun_concat (cs : List Char) (c : Char) :
    escapeRun (cs ++ [c]) = if c = escapeChar then escapeRun cs + 1 else 0 := by
  rw [escapeRun, List.rtakeWhile_concat]
  split <;> simp_all [escapeRun]

theorem eq_concat_of_odd_escapeRun {cs : List Char} (h : Odd (escapeRun cs)) :
    ∃ front, cs = front ++ [escapeChar] := by
  cases cs using List.reverseRecOn with
  | nil => simp [escapeRun] at h
  | append_singleton front c =>
    rw [escapeRun_concat] at h
    split at h
    · next hc => exact ⟨front, by rw [hc]⟩
    · simp at h

/-- What the characters before a place tell of it. -/
structure Standing where
  /-- The slot that is open. -/
  slot? : Option SlotKind
  /-- The next character is escaped. -/
  escaped : Bool
  deriving DecidableEq, Repr

namespace Standing

def outside : Standing := ⟨none, false⟩

def inside (k : SlotKind) : Standing := ⟨some k, false⟩

/-- The place behind a character. -/
def next (s : Standing) (c : Char) : Standing :=
  if s.escaped then { s with escaped := false }
  else if c = escapeChar then { s with escaped := true }
  else
    match s.slot? with
    | none => { s with slot? := SlotKind.ofOpening? c }
    | some k => if c = k.closing then outside else s

/-- The place behind several characters. -/
def after (s : Standing) (cs : List Char) : Standing := cs.foldl next s

@[simp] theorem after_nil (s : Standing) : s.after [] = s := rfl

@[simp] theorem after_cons (s : Standing) (c : Char) (cs : List Char) :
    s.after (c :: cs) = (s.next c).after cs := rfl

@[simp] theorem after_append (s : Standing) (cs ds : List Char) :
    s.after (cs ++ ds) = (s.after cs).after ds :=
  List.foldl_append

theorem next_escaped (s : Standing) (c : Char) :
    (s.next c).escaped = (!s.escaped && c = escapeChar) := by
  obtain ⟨slot?, escaped⟩ := s
  cases escaped with
  | true => rfl
  | false =>
    by_cases hc : c = escapeChar
    · simp [next, hc]
    · cases slot? with
      | none => simp [next, hc]
      | some k =>
        by_cases hk : c = k.closing
        · simp [next, hk, outside, k.closing_ne_escapeChar]
        · simp [next, hc, hk]

/-- Escape characters escape one another in pairs. -/
theorem after_escaped_iff {s : Standing} (hs : s.escaped = false) (cs : List Char) :
    (s.after cs).escaped = true ↔ Odd (escapeRun cs) := by
  induction cs using List.reverseRecOn with
  | nil => simp [hs, escapeRun]
  | append_singleton cs c ih =>
    rw [after_append, after_cons, after_nil, next_escaped, escapeRun_concat]
    by_cases hc : c = escapeChar
    · simp [hc, Nat.odd_add_one, ← ih]
    · simp [hc]

theorem next_escapeChar {s : Standing} (hs : s.escaped = false) (c : Char) :
    (s.next escapeChar).next c = s := by
  obtain ⟨slot?, escaped⟩ := s
  cases hs
  rfl

theorem inside_ne_outside (k : SlotKind) : inside k ≠ outside := by
  simp [inside, outside]

@[simp] theorem outside_next_opening (k : SlotKind) : outside.next k.opening = inside k := by
  simp [next, outside, inside, k.opening_ne_escapeChar, k.ofOpening?_opening]

@[simp] theorem inside_next_closing (k : SlotKind) : (inside k).next k.closing = outside := by
  simp [next, inside, k.closing_ne_escapeChar]

theorem outside_next_plain {c : Char} (hc : c ≠ escapeChar)
    (hopens : SlotKind.ofOpening? c = none) : outside.next c = outside := by
  simp [next, outside, hc, hopens]

theorem inside_next_plain {k : SlotKind} {c : Char} (hc : c ≠ escapeChar)
    (hcloses : k.closes c = none) : (inside k).next c = inside k := by
  simp [next, inside, hc, SlotKind.closes_eq_none_iff.mp hcloses]

end Standing

/-- The place behind the characters that a text begins with. -/
def standing (before : List Char) : Standing := Standing.outside.after before

/-- **A character is escaped** exactly if the run of escape characters before it is odd. -/
theorem standing_escaped_iff (before : List Char) :
    (standing before).escaped = true ↔ Odd (escapeRun before) :=
  Standing.after_escaped_iff rfl before

theorem standing_eq_escaped_iff {before : List Char} {slot? : Option SlotKind} :
    standing before = ⟨slot?, true⟩ ↔
      Odd (escapeRun before) ∧ (standing before).slot? = slot? := by
  rw [← standing_escaped_iff]
  generalize standing before = s
  obtain ⟨slot?, escaped⟩ := s
  simp [and_comm]

theorem standing_append (cs ds : List Char) :
    standing (cs ++ ds) = (standing cs).after ds :=
  Standing.after_append _ cs ds

/-- What follows a place outside every slot may be taken by itself. -/
theorem standing_append_of_outside {front : List Char} (h : standing front = .outside)
    (cs : List Char) : standing (front ++ cs) = standing cs := by
  rw [standing_append, h, standing]

/-- Text that runs on leaves the place as it is, up to an escape of nothing. -/
theorem Spells.after {β : Type} {stop : Char → Option β} {raw text : List Char}
    {dangling : Bool} (h : Spells stop raw text dangling) {s : Standing}
    (hs : s.escaped = false)
    (hkeep : ∀ c, c ≠ escapeChar → stop c = none → s.next c = s) :
    s.after raw = { s with escaped := dangling } := by
  induction h with
  | nil => rw [Standing.after_nil, ← hs]
  | dangling => simp [Standing.next, hs]
  | escaped c _ ih => rw [Standing.after_cons, Standing.after_cons, Standing.next_escapeChar hs, ih]
  | plain c hc hstop _ ih => rw [Standing.after_cons, hkeep c hc hstop, ih]

section Places
variable {raw text body name rest : List Char} {dangling : Bool} {k : SlotKind}

theorem standing_label (h : LabelSpells raw text dangling) :
    standing raw = ⟨none, dangling⟩ :=
  h.after rfl fun _ => Standing.outside_next_plain

theorem after_name (h : k.Spells body name dangling) :
    (Standing.inside k).after body = ⟨some k, dangling⟩ :=
  h.after rfl fun _ => Standing.inside_next_plain

theorem standing_unclosed (h : LabelSpells raw text false) (hname : k.Spells body name dangling) :
    standing (raw ++ k.opening :: body) = ⟨some k, dangling⟩ := by
  rw [standing_append, standing_label h, Standing.after_cons]
  exact (congrArg (Standing.after · body) (Standing.outside_next_opening k)).trans
    (after_name hname)

/-- What follows a slot stands as if it stood at the start. -/
theorem standing_slot (h : LabelSpells raw text false) (hname : k.Spells body name false) :
    standing (raw ++ k.opening :: (body ++ k.closing :: rest)) = standing rest := by
  have hopen : standing (raw ++ k.opening :: body) = Standing.inside k := standing_unclosed h hname
  have hsplit : raw ++ k.opening :: (body ++ k.closing :: rest) =
      (raw ++ k.opening :: body) ++ k.closing :: rest := by simp
  rw [hsplit, standing_append, hopen, Standing.after_cons, Standing.inside_next_closing]
  rfl

end Places
end ReporterBlocks
