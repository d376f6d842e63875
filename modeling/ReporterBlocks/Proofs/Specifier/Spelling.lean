import ReporterBlocks.Specifier.Reading

/-! # How characters spell a text

The text of a label and the name of a slot run up to the first unescaped character
that ends them.  `Spells stop raw text dangling` says that `raw`, in which no such
character stands, is taken for `text`; `dangling` tells whether it ends in an escape of
nothing.

This is `Chunk.read` as a relation.  Characters are read as far as they spell something
(`Spells.read_all`, `Spells.read_stop`), and any characters either spell a text to
their end or do so up to one that ends it (`spells_or_stops`).
-/

namespace ReporterBlocks
variable {β : Type} {stop : Char → Option β}

namespace Chunk

theorem read_plain {c : Char} (hc : c ≠ escapeChar) (hstop : stop c = none) (cs : List Char) :
    read stop (c :: cs) = (read stop cs).cons c [c] := by
  cases cs <;> simp only [read, if_neg hc, hstop]

theorem read_stop {c : Char} (hc : c ≠ escapeChar) {b : β} (hstop : stop c = some b)
    (cs : List Char) : read stop (c :: cs) = ⟨[], [], false, some (b, cs)⟩ := by
  cases cs <;> simp only [read, if_neg hc, hstop]

theorem read_escaped (c : Char) (cs : List Char) :
    read stop (escapeChar :: c :: cs) = (read stop cs).cons c [escapeChar, c] := by
  rw [read, if_pos rfl]

end Chunk

/-- The characters, none of which ends the text, that a text is read from. -/
inductive Spells (stop : Char → Option β) : List Char → List Char → Bool → Prop
  | nil : Spells stop [] [] false
  /-- An escape of nothing is dropped. -/
  | dangling : Spells stop [escapeChar] [] true
  /-- A character that is escaped stands for itself. -/
  | escaped (c : Char) {raw text : List Char} {dangling : Bool}
      (h : Spells stop raw text dangling) :
      Spells stop (escapeChar :: c :: raw) (c :: text) dangling
  /-- So does one that neither escapes the next one nor ends the text. -/
  | plain (c : Char) (hc : c ≠ escapeChar) (hstop : stop c = none) {raw text : List Char}
      {dangling : Bool} (h : Spells stop raw text dangling) :
      Spells stop (c :: raw) (c :: text) dangling

namespace Spells
variable {raw text : List Char} {dangling : Bool}

/-- Characters that spell a text are read to their end. -/
theorem read_all (h : Spells stop raw text dangling) :
    Chunk.read stop raw = ⟨text, raw, dangling, none⟩ := by
  induction h with
  | nil => rw [Chunk.read]
  | dangling => rw [Chunk.read, if_pos rfl]
  | escaped c _ ih =>
    rw [Chunk.read_escaped, ih]
    rfl
  | plain c hc hstop _ ih =>
    rw [Chunk.read_plain hc hstop, ih]
    rfl

/-- They are read up to a character that ends the text. -/
theorem read_stop (h : Spells stop raw text false) {c : Char} (hc : c ≠ escapeChar) {b : β}
    (hstop : stop c = some b) (rest : List Char) :
    Chunk.read stop (raw ++ c :: rest) = ⟨text, raw, false, some (b, rest)⟩ := by
  generalize hfalse : false = dangling at h
  induction h with
  | nil => exact Chunk.read_stop hc hstop rest
  | dangling => cases hfalse
  | escaped d _ ih =>
    rw [List.cons_append, List.cons_append, Chunk.read_escaped, ih hfalse]
    rfl
  | plain d hd hstop' _ ih =>
    rw [List.cons_append, Chunk.read_plain hd hstop', ih hfalse]
    rfl

/-- Only nothing, or an escape of nothing, is taken for the empty text. -/
theorem eq_of_text_nil (h : Spells stop raw [] dangling) :
    raw = if dangling then [escapeChar] else [] := by
  cases h <;> rfl

theorem raw_ne_nil (h : Spells stop raw text dangling) (htext : text ≠ []) : raw ≠ [] := by
  cases h with
  | nil => exact absurd rfl htext
  | _ => simp

/-- Characters behind those of a text spell what is put behind it. -/
theorem append (h : Spells stop raw text false) {raw' text' : List Char}
    (h' : Spells stop raw' text' dangling) :
    Spells stop (raw ++ raw') (text ++ text') dangling := by
  generalize hfalse : false = d at h
  induction h with
  | nil => exact h'
  | dangling => cases hfalse
  | escaped c _ ih => exact (ih hfalse).escaped c
  | plain c hc hstop _ ih => exact (ih hfalse).plain c hc hstop

/-- Characters among which nothing is escaped spell themselves. -/
theorem eq_of_unescaped (h : Spells stop raw text dangling) (hraw : escapeChar ∉ raw) :
    text = raw ∧ dangling = false := by
  induction h with
  | nil => exact ⟨rfl, rfl⟩
  | dangling | escaped => simp at hraw
  | plain c hc hstop h ih =>
    obtain ⟨rfl, rfl⟩ := ih fun hmem => hraw (List.mem_cons_of_mem c hmem)
    exact ⟨rfl, rfl⟩

end Spells

/-- **Every text is spelt to its end or up to a character that ends it.** -/
theorem spells_or_stops (stop : Char → Option β) (cs : List Char) :
    (∃ text dangling, Spells stop cs text dangling) ∨
      ∃ raw text c b rest, cs = raw ++ c :: rest ∧ Spells stop raw text false ∧
        c ≠ escapeChar ∧ stop c = some b := by
  fun_induction Chunk.read stop cs with
  | case1 => exact Or.inl ⟨[], false, .nil⟩
  | case2 => exact Or.inl ⟨[], true, .dangling⟩
  | case3 c cs ih =>
    rcases ih with ⟨text, dangling, h⟩ | ⟨raw, text, d, b, rest, rfl, h, hd, hstop⟩
    · exact Or.inl ⟨c :: text, dangling, h.escaped c⟩
    · exact Or.inr ⟨escapeChar :: c :: raw, c :: text, d, b, rest, rfl, h.escaped c, hd, hstop⟩
  | case4 c cs hc b hstop => exact Or.inr ⟨[], [], c, b, cs, rfl, .nil, hc, hstop⟩
  | case5 c cs hc hstop ih =>
    rcases ih with ⟨text, dangling, h⟩ | ⟨raw, text, d, b, rest, rfl, h, hd, hstop'⟩
    · exact Or.inl ⟨c :: text, dangling, h.plain c hc hstop⟩
    · exact Or.inr ⟨c :: raw, c :: text, d, b, rest, rfl, h.plain c hc hstop, hd, hstop'⟩

end ReporterBlocks
