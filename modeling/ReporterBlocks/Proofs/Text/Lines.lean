import Mathlib.Data.List.DropRight
import ReporterBlocks.Proofs.Text.Cut
import ReporterBlocks.Text.Lines

/-! # Blanks and ends of lines

Blanks put around a text are left out again (`trim_append`), and what is left begins with
the first character that is not blank (`head?_trim`).  The lines of a text are the pieces
between its line feeds, save for a carriage return at the end of a line and for an empty
piece at the end of the text; so they are the same to whoever overlooks both
(`filter_map_linesOfPieces`).  Where all carriage returns at the end of a line are dropped,
more of them before the line feeds make no difference (`map_dropEnd_withReturns`).
-/

namespace ReporterBlocks.Text

section DropEnd
variable {α : Type} {p : α → Bool} {l m : List α}

theorem dropEnd_append (hm : ∀ a ∈ m, p a = true) : dropEnd p (l ++ m) = dropEnd p l := by
  have hreverse : ∀ a ∈ m.reverse, p a = true := fun a ha => hm a (List.mem_reverse.mp ha)
  rw [dropEnd, List.reverse_append, List.dropWhile_append_of_pos hreverse, dropEnd]

theorem dropEnd_isPrefix (p : α → Bool) (l : List α) : dropEnd p l <+: l :=
  List.rdropWhile_prefix p l

/-- What is left does not end in what is dropped. -/
theorem getLast?_dropEnd (p : α → Bool) (l : List α) :
    ∀ a ∈ (dropEnd p l).getLast?, p a = false := by
  intro a ha
  obtain ⟨hne, rfl⟩ := List.mem_getLast?_eq_getLast ha
  exact Bool.eq_false_iff.mpr (List.rdropWhile_last_not p l hne)

theorem dropEnd_of_getLast? (hl : ∀ a ∈ l.getLast?, p a = false) : dropEnd p l = l := by
  refine List.rdropWhile_eq_self_iff.mpr fun hne => ?_
  rw [hl _ (List.getLast?_eq_getLast_of_ne_nil hne)]
  exact Bool.false_ne_true

/-- What a list ends in does not depend on what is put in front of it. -/
theorem dropEnd_cons_congr (h : dropEnd p l = dropEnd p m) (a : α) :
    dropEnd p (a :: l) = dropEnd p (a :: m) := by
  have hcons (l : List α) : dropEnd p (a :: l) =
      if dropEnd p l = [] then dropEnd p [a] else a :: dropEnd p l := by
    rw [dropEnd, List.reverse_cons, List.dropWhile_append, dropEnd]
    split
    · next hnil =>
      rw [List.isEmpty_iff.mp hnil, List.reverse_nil, if_pos rfl]
      rfl
    · next hnil =>
      rw [if_neg (by simpa using hnil), List.reverse_append]
      rfl
  rw [hcons l, hcons m, h]

end DropEnd

/-- **Blanks around a text** are left out with its own. -/
theorem trim_append {before after : List Char} (hbefore : before.all isBlank = true)
    (hafter : after.all isBlank = true) (cs : List Char) :
    trim (before ++ cs ++ after) = trim cs := by
  rw [List.all_eq_true] at hbefore hafter
  rw [trim, List.append_assoc, List.dropWhile_append_of_pos hbefore, List.dropWhile_append, trim]
  split
  · next hblank =>
    -- nothing is left of the text itself
    have hnil : (after ++ []).dropWhile isBlank = [] := List.dropWhile_append_of_pos hafter
    rw [List.append_nil] at hnil
    rw [hnil, List.isEmpty_iff.mp hblank]
  · exact dropEnd_append hafter

/-- What is left begins with the first character that is not blank. -/
theorem head?_trim (cs : List Char) : (trim cs).head? = cs.find? (fun c => !isBlank c) := by
  simp only [List.find?_eq_head?_dropWhile_not, Bool.not_not, trim]
  have hhead := List.head?_dropWhile_not isBlank cs
  cases hrest : cs.dropWhile isBlank with
  | nil => rfl
  | cons c rest =>
    rw [hrest] at hhead
    have hc : isBlank c = false := hhead
    rw [dropEnd, List.reverse_cons, List.dropWhile_append]
    split <;> simp [hc]

/-! ## Ends of lines -/

theorem dropEnd_chopReturn (l : List Char) :
    dropEnd (· = '\r') (chopReturn l) = dropEnd (· = '\r') l := by
  rw [chopReturn]
  split
  · next hlast =>
    have hsplit : l.dropLast ++ ['\r'] = l := by
      obtain ⟨front, rfl⟩ := List.getLast?_eq_some_iff.mp hlast
      rw [List.dropLast_concat]
    rw [← congrArg (dropEnd (· = '\r')) hsplit, dropEnd_append (by simp)]
  · rfl

/-- **Lines and pieces** are the same if a carriage return at the end makes no difference
and an empty line is left out. -/
theorem filter_map_linesOfPieces {β : Type} {f : List Char → β} {p : β → Bool}
    (hf : ∀ l, f (chopReturn l) = f l) (hp : p (f []) = false) (ls : List (List Char)) :
    ((linesOfPieces ls).map f).filter p = (ls.map f).filter p := by
  fun_induction linesOfPieces ls with
  | case1 => rfl
  | case2 => simp [hp]
  | case3 => rfl
  | case4 l ls _ ih => rw [List.map_cons, List.map_cons, List.filter_cons, List.filter_cons, hf, ih]

/-- The text with a carriage return before each line feed. -/
def withReturns (cs : List Char) : List Char :=
  cs.flatMap fun c => if c = '\n' then ['\r', '\n'] else [c]

theorem withReturns_feed (cs : List Char) :
    withReturns ('\n' :: cs) = '\r' :: '\n' :: withReturns cs := rfl

theorem withReturns_cons {c : Char} (hc : c ≠ '\n') (cs : List Char) :
    withReturns (c :: cs) = c :: withReturns cs := by
  rw [withReturns, List.flatMap_cons, if_neg hc]
  rfl

/-- **Carriage returns before the line feeds** are dropped from the ends of the lines. -/
theorem map_dropEnd_withReturns (cs : List Char) :
    (piecesAt '\n' (withReturns cs)).map (dropEnd (· = '\r')) =
      (piecesAt '\n' cs).map (dropEnd (· = '\r')) := by
  induction cs with
  | nil => rfl
  | cons c cs ih =>
    by_cases hc : c = '\n'
    · -- the line that ends here gets the carriage return, and has nothing else so far
      have hreturn : piecesAt '\n' ('\r' :: '\n' :: withReturns cs) =
          ['\r'] :: piecesAt '\n' (withReturns cs) :=
        piecesAt_cons (by decide) (piecesAt_sep _ _)
      rw [hc, withReturns_feed, hreturn, piecesAt_sep, List.map_cons, List.map_cons, ih]
      rfl
    · obtain ⟨l, ls, hl⟩ := exists_piecesAt '\n' (withReturns cs)
      obtain ⟨m, ms, hm⟩ := exists_piecesAt '\n' cs
      rw [hl, hm, List.map_cons, List.map_cons, List.cons.injEq] at ih
      rw [withReturns_cons hc, piecesAt_cons hc hl, piecesAt_cons hc hm, List.map_cons,
        List.map_cons, ih.2, dropEnd_cons_congr ih.1]

end ReporterBlocks.Text
