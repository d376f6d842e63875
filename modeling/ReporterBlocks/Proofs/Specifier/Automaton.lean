import ReporterBlocks.Proofs.Specifier.Standing
import ReporterBlocks.Proofs.Specifier.Writing

/-! # Reading one character at a time

`scan` reads a label or the name of a slot as a whole, and behind an escape it takes two
characters at once.  An `Automaton` does neither.  All it has is the place where the next
character stands (`standing_after`), the text at hand and the pieces before it, and every
character makes one step.

A text that runs on is taken up character by character (`after_spells`), and the delimiter
behind it puts it down as a piece.  So the automaton goes through a layout piece by piece,
and in the end has put down what `scan` reads (`finish_after`).

The steps also show that no text is lost: what has been taken up, with what has been put
down, grows by the characters that stand for themselves and by no other (`taken_after`).
Hence `read_eq_automaton`, for the pieces and for the text in them.
-/

namespace ReporterBlocks

/-- What has been read of a text up to some place, and what that place is. -/
structure Automaton extends Standing where
  /-- The text of the label or of the slot at hand. -/
  text : List Char
  /-- What stands before it. -/
  pieces : List Piece
  deriving DecidableEq, Repr

namespace Automaton

def start : Automaton := ⟨.outside, [], []⟩

/-- Takes a character up for itself. -/
def push (a : Automaton) (c : Char) : Automaton := { a with text := a.text ++ [c] }

def next (a : Automaton) (c : Char) : Automaton :=
  if a.escaped then { a.push c with escaped := false }
  else if c = escapeChar then { a with escaped := true }
  else
    match a.slot? with
    | none =>
      match SlotKind.ofOpening? c with
      | some k => ⟨.inside k, [], a.pieces ++ labelPieces a.text⟩
      | none => a.push c
    | some k =>
      if c = k.closing then ⟨.outside, [], a.pieces ++ [.slot k (String.ofList a.text)]⟩
      else a.push c

def after (a : Automaton) (cs : List Char) : Automaton := cs.foldl next a

/-- The pieces at the end of the text: a slot that is open is put down, and so is a label
unless it is empty. -/
def finish (a : Automaton) : List Piece :=
  match a.slot? with
  | none => a.pieces ++ labelPieces a.text
  | some k => a.pieces ++ [.slot k (String.ofList a.text)]

/-- What the automaton reads from the characters of a text. -/
def read (cs : List Char) : List Piece := (start.after cs).finish

@[simp] theorem after_nil (a : Automaton) : a.after [] = a := rfl

@[simp] theorem after_cons (a : Automaton) (c : Char) (cs : List Char) :
    a.after (c :: cs) = (a.next c).after cs := rfl

@[simp] theorem after_append (a : Automaton) (cs ds : List Char) :
    a.after (cs ++ ds) = (a.after cs).after ds :=
  List.foldl_append

/-! ## One step -/

theorem toStanding_next (a : Automaton) (c : Char) :
    (a.next c).toStanding = a.toStanding.next c := by
  obtain ⟨⟨slot?, escaped⟩, text, pieces⟩ := a
  unfold next Standing.next
  cases escaped with
  | true => rfl
  | false =>
    by_cases hc : c = escapeChar
    · simp [hc]
    · cases slot? with
      | none => cases SlotKind.ofOpening? c <;> simp [hc, push, Standing.inside]
      | some k => by_cases hcloses : c = k.closing <;> simp_all [push]

/-- The automaton keeps the place where the next character stands. -/
theorem standing_after (cs : List Char) : (start.after cs).toStanding = standing cs := by
  induction cs using List.reverseRecOn with
  | nil => rfl
  | append_singleton cs c ih =>
    rw [after_append, standing_append, after_cons, after_nil, toStanding_next, ih]
    rfl

section Steps
variable {a : Automaton} (ha : a.escaped = false) {k : SlotKind} {c : Char}
include ha

/-- A character that is escaped stands for itself. -/
theorem next_escaped (c : Char) : (a.next escapeChar).next c = a.push c := by
  obtain ⟨⟨slot?, escaped⟩, text, pieces⟩ := a
  cases ha
  rfl

theorem next_opening (hslot : a.slot? = none) :
    a.next k.opening = ⟨.inside k, [], a.pieces ++ labelPieces a.text⟩ := by
  simp [next, ha, hslot, k.opening_ne_escapeChar, k.ofOpening?_opening]

theorem next_closing (hslot : a.slot? = some k) :
    a.next k.closing = ⟨.outside, [], a.pieces ++ [.slot k (String.ofList a.text)]⟩ := by
  simp [next, ha, hslot, k.closing_ne_escapeChar]

theorem next_plain_outside (hslot : a.slot? = none) (hc : c ≠ escapeChar)
    (hopens : SlotKind.ofOpening? c = none) : a.next c = a.push c := by
  simp [next, ha, hslot, hc, hopens]

theorem next_plain_inside (hslot : a.slot? = some k) (hc : c ≠ escapeChar)
    (hcloses : c ≠ k.closing) : a.next c = a.push c := by
  simp [next, ha, hslot, hc, hcloses]

end Steps

/-! ## A label, a slot and what comes behind -/

/-- Text that runs on is taken up, up to an escape of nothing. -/
theorem after_spells {β : Type} {stop : Char → Option β} {raw text : List Char}
    {dangling : Bool} (h : Spells stop raw text dangling) {slot? : Option SlotKind}
    (hpush : ∀ a : Automaton, a.escaped = false → a.slot? = slot? →
      ∀ c, c ≠ escapeChar → stop c = none → a.next c = a.push c)
    (front : List Char) (pieces : List Piece) :
    after ⟨⟨slot?, false⟩, front, pieces⟩ raw =
      ⟨⟨slot?, dangling⟩, front ++ text, pieces⟩ := by
  induction h generalizing front with
  | nil => rw [after_nil, List.append_nil]
  | dangling => simp [next]
  | escaped c _ ih =>
    rw [after_cons, after_cons, next_escaped rfl, push, ih, List.append_assoc]
    rfl
  | plain c hc hstop _ ih =>
    rw [after_cons, hpush _ rfl rfl c hc hstop, push, ih, List.append_assoc]
    rfl

section Layouts
variable {k : SlotKind} {raw text body name : List Char} {dangling : Bool} {pieces : List Piece}

theorem after_label (h : LabelSpells raw text dangling) :
    after ⟨.outside, [], pieces⟩ raw = ⟨⟨none, dangling⟩, text, pieces⟩ :=
  after_spells h (fun _ ha hslot _ => next_plain_outside ha hslot) [] pieces

theorem after_name (h : k.Spells body name dangling) :
    after ⟨.inside k, [], pieces⟩ body = ⟨⟨some k, dangling⟩, name, pieces⟩ := by
  refine after_spells h ?_ [] pieces
  intro a ha hslot c hc hcloses
  exact next_plain_inside ha hslot hc (SlotKind.closes_eq_none_iff.mp hcloses)

theorem after_unclosed (h : LabelSpells raw text false) (hname : k.Spells body name dangling) :
    after ⟨.outside, [], pieces⟩ (raw ++ k.opening :: body) =
      ⟨⟨some k, dangling⟩, name, pieces ++ labelPieces text⟩ := by
  rw [after_append, after_label h, after_cons, next_opening rfl rfl, after_name hname]

theorem after_slot (h : LabelSpells raw text false) (hname : k.Spells body name false) :
    after ⟨.outside, [], pieces⟩ (raw ++ k.opening :: (body ++ [k.closing])) =
      ⟨.outside, [], pieces ++ labelPieces text ++ [.slot k (String.ofList name)]⟩ := by
  rw [← List.cons_append, ← List.append_assoc, after_append, after_unclosed h hname,
    after_cons, next_closing rfl rfl, after_nil]

end Layouts

/-- **The automaton puts down what is read as a whole.** -/
theorem finish_after (cs : List Char) (pos : Nat) (pieces : List Piece) :
    (after ⟨.outside, [], pieces⟩ cs).finish =
      pieces ++ (scan pos cs).1.map Fragment.piece := by
  -- what is read behind a slot is put down behind the pieces that stand there by then
  induction layout cs generalizing pos pieces with
  | label h =>
    rw [after_label h, scan_label pos h, map_piece_labelFragment]
    rfl
  | unclosed h k hname =>
    rw [after_unclosed h hname, scan_unclosed pos h hname, List.map_append,
      map_piece_labelFragment, ← List.append_assoc]
    rfl
  | @slot raw text h k body name hname rest _ ih =>
    have hsplit : raw ++ k.opening :: (body ++ k.closing :: rest) =
        raw ++ k.opening :: (body ++ [k.closing]) ++ rest := by simp
    rw [scan_slot pos h hname, hsplit, after_append, after_slot h hname, ih, List.map_append,
      map_piece_labelFragment, List.append_assoc, List.append_assoc]
    rfl

/-! ## Nothing is lost -/

/-- All text that has been taken up, that of the pieces included. -/
def taken (a : Automaton) : List Char := a.pieces.flatMap (·.text.toList) ++ a.text

theorem taken_push (a : Automaton) (c : Char) : (a.push c).taken = a.taken ++ [c] :=
  (List.append_assoc ..).symm

theorem flatMap_text_labelPieces (text : List Char) :
    (labelPieces text).flatMap (·.text.toList) = text := by
  unfold labelPieces
  split
  · next h => exact h.symm
  · simp [Piece.text]

theorem flatMap_text_finish (a : Automaton) : a.finish.flatMap (·.text.toList) = a.taken := by
  unfold finish
  split
  · rw [List.flatMap_append, flatMap_text_labelPieces, taken]
  · simp [taken, Piece.text]

end Automaton

/-- A text without the escape characters and the delimiters that are at work in it.
`closing` is the delimiter that closes the slot at hand. -/
def slotText (closing : Option Char) : List Char → List Char
  | [] => []
  | c :: cs =>
    if c = escapeChar then
      match cs with
      | [] => []
      | d :: ds => d :: slotText closing ds
    else
      match closing with
      | some close => if c = close then slotText none cs else c :: slotText closing cs
      | none =>
        match SlotKind.ofOpening? c with
        | some k => slotText (some k.closing) cs
        | none => c :: slotText none cs

namespace Automaton

/-- **No text is lost.**  What stands for itself is taken up, and nothing else is. -/
theorem taken_after (a : Automaton) (cs : List Char) (ha : a.escaped = false) :
    (a.after cs).taken = a.taken ++ slotText (a.slot?.map SlotKind.closing) cs := by
  -- all that `slotText` knows of the automaton is what would close the slot at hand
  generalize hclosing : a.slot?.map SlotKind.closing = closing
  fun_induction slotText closing cs generalizing a with
  | case1 => exact (List.append_nil _).symm
  | case2 =>
    -- an escape of nothing
    have htaken : (a.next escapeChar).taken = a.taken := by simp [next, ha, taken]
    rw [after_cons, after_nil, htaken, List.append_nil]
  | case3 closing d ds ih =>
    rw [after_cons, after_cons, next_escaped ha, ih (a.push d) ha hclosing, taken_push,
      List.append_assoc, List.singleton_append]
  | case4 cs close hc ih =>
    obtain ⟨k, hslot, rfl⟩ := Option.map_eq_some_iff.mp hclosing
    rw [after_cons, next_closing ha hslot, ih _ rfl rfl]
    simp [taken, Piece.text]
  | case5 c cs hc close hne ih =>
    obtain ⟨k, hslot, rfl⟩ := Option.map_eq_some_iff.mp hclosing
    rw [after_cons, next_plain_inside ha hslot hc hne, ih (a.push c) ha hclosing, taken_push,
      List.append_assoc, List.singleton_append]
  | case6 c cs hc k hopens ih =>
    obtain rfl := SlotKind.eq_opening_of_ofOpening? hopens
    rw [after_cons, next_opening ha (Option.map_eq_none_iff.mp hclosing), ih _ rfl rfl]
    simp [taken, flatMap_text_labelPieces]
  | case7 c cs hc hopens ih =>
    rw [after_cons, next_plain_outside ha (Option.map_eq_none_iff.mp hclosing) hc hopens,
      ih (a.push c) ha hclosing, taken_push, List.append_assoc, List.singleton_append]

end Automaton

/-- **What is read is what the automaton reads**, and the texts of the pieces make up the
text but for the escape characters and the delimiters at work in it. -/
theorem Specifier.read_eq_automaton (source : Nat) (text : String) :
    (read source text).pieces = Automaton.read text.toList ∧
      String.join ((read source text).pieces.map Piece.text) =
        String.ofList (slotText none text.toList) := by
  have hread : (read source text).pieces = Automaton.read text.toList :=
    (Automaton.finish_after text.toList 0 []).symm
  refine ⟨hread, String.toList_injective ?_⟩
  rw [hread, String.toList_join, List.flatMap_map, String.toList_ofList]
  calc (Automaton.read text.toList).flatMap (·.text.toList)
      = (Automaton.start.after text.toList).taken := Automaton.flatMap_text_finish _
    _ = slotText none text.toList := Automaton.taken_after _ text.toList rfl

/-- Inside a slot only its own closing delimiter is at work. -/
example : Automaton.read "a_[b (n ]_)<)c".toList =
    [.label "a[b ", .slot .number "n ])<", .label "c"] := by
  decide +kernel

end ReporterBlocks
