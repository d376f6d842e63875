import ReporterBlocks.Text.Cut

/-! # Where a text is cut

A text is cut at a separator exactly if the separator stands in it somewhere.

Most separators are a character with a word behind it that does not hold the character, as
a line feed and what a line must begin with.  Such a separator does not overlap with
itself, so behind a text in which it does not stand it is found where it was put
(`cut?_append`).  It stands in a text exactly if one of the pieces that the character
cuts off, the first one apart, begins with the word (`infix_iff_piece`).  The place where
a text is cut is then the only one before which it does not stand (`cut?_eq_some_iff`).

The pieces are those of the library's `List.splitOn` (`piecesAt_eq_splitOn`), and with the
separator between them they are the text again.
-/

namespace ReporterBlocks.Text

theorem isSome_cut?_iff (sep cs : List Char) : (cut? sep cs).isSome = true ↔ sep <:+: cs := by
  fun_induction cut? sep cs with
  | case1 cs h => exact iff_of_true rfl (List.isPrefixOf_iff_prefix.mp h).isInfix
  | case2 h =>
    refine iff_of_false Bool.false_ne_true fun hinfix => h ?_
    rw [List.infix_nil.mp hinfix]
    rfl
  | case3 c cs h ih =>
    rw [Option.isSome_map, ih, List.infix_cons_iff]
    exact (or_iff_right fun hpre => h (List.isPrefixOf_iff_prefix.mpr hpre)).symm

theorem occursIn_iff (s t : String) : occursIn s t = true ↔ s.toList <:+: t.toList :=
  isSome_cut?_iff _ _

theorem cut?_eq_none_iff (sep cs : List Char) : cut? sep cs = none ↔ ¬ sep <:+: cs := by
  rw [← isSome_cut?_iff, Bool.not_eq_true, Option.isSome_eq_false_iff, Option.isNone_iff_eq_none]

/-! ## Pieces -/

section Pieces
variable {sep : Char}

/-- There is a first piece. -/
theorem exists_piecesAt (sep : Char) (cs : List Char) : ∃ l ls, piecesAt sep cs = l :: ls := by
  cases cs with
  | nil => exact ⟨_, _, rfl⟩
  | cons c cs =>
    rw [piecesAt]
    split
    · exact ⟨_, _, rfl⟩
    · split <;> exact ⟨_, _, rfl⟩

theorem piecesAt_sep (sep : Char) (cs : List Char) :
    piecesAt sep (sep :: cs) = [] :: piecesAt sep cs := by
  rw [piecesAt, if_pos rfl]

/-- A character that is no separator is put in front of the first piece. -/
theorem piecesAt_cons {c : Char} (hc : c ≠ sep) {cs l : List Char} {ls : List (List Char)}
    (h : piecesAt sep cs = l :: ls) : piecesAt sep (c :: cs) = (c :: l) :: ls := by
  rw [piecesAt, if_neg hc, h]

/-- **Pieces are those of the library**, whose lemmas hold of them. -/
theorem piecesAt_eq_splitOn (sep : Char) (cs : List Char) : piecesAt sep cs = cs.splitOn sep := by
  induction cs with
  | nil => rfl
  | cons c cs ih =>
    obtain ⟨l, ls, hpieces⟩ := exists_piecesAt sep cs
    rw [List.splitOn_cons_eq_if_modifyHead, ← ih]
    split
    · next hc => rw [eq_of_beq hc, piecesAt_sep]
    · next hc =>
      rw [piecesAt_cons (hc ∘ beq_iff_eq.mpr) hpieces, hpieces, List.modifyHead_cons]

/-- A text without a separator is one piece. -/
theorem piecesAt_of_not_mem {cs : List Char} (hcs : sep ∉ cs) : piecesAt sep cs = [cs] := by
  rw [piecesAt_eq_splitOn, List.splitOn_eq_singleton hcs]

/-- **The pieces of two texts** with a separator between them. -/
theorem piecesAt_append (sep : Char) (cs ds : List Char) :
    piecesAt sep (cs ++ sep :: ds) = piecesAt sep cs ++ piecesAt sep ds := by
  simp only [piecesAt_eq_splitOn, List.splitOn_append_cons_self]

/-- Put together again the pieces are the text. -/
theorem intercalate_piecesAt (sep : Char) (cs : List Char) :
    [sep].intercalate (piecesAt sep cs) = cs := by
  rw [piecesAt_eq_splitOn, List.intercalate_splitOn]

theorem piecesAt_injective (sep : Char) {cs ds : List Char}
    (h : piecesAt sep cs = piecesAt sep ds) : cs = ds := by
  rw [← intercalate_piecesAt sep cs, h, intercalate_piecesAt]

theorem piecesAt_intercalate {ls : List (List Char)} (hls : ∀ l ∈ ls, sep ∉ l) (hne : ls ≠ []) :
    piecesAt sep ([sep].intercalate ls) = ls := by
  rw [piecesAt_eq_splitOn, List.splitOn_intercalate sep hls hne]

theorem not_mem_of_mem_piecesAt {cs l : List Char} (h : l ∈ piecesAt sep cs) : sep ∉ l := by
  induction cs generalizing l with
  | nil =>
    rw [List.mem_singleton.mp h]
    exact List.not_mem_nil
  | cons c cs ih =>
    by_cases hc : c = sep
    · rw [hc, piecesAt_sep] at h
      rcases List.mem_cons.mp h with rfl | h
      · exact List.not_mem_nil
      · exact ih h
    · obtain ⟨m, ms, hpieces⟩ := exists_piecesAt sep cs
      rw [piecesAt_cons hc hpieces] at h
      rw [hpieces] at ih
      rcases List.mem_cons.mp h with rfl | h
      · rw [List.mem_cons, not_or]
        exact ⟨Ne.symm hc, ih List.mem_cons_self⟩
      · exact ih (List.mem_cons_of_mem m h)

/-- Characters without a separator join the first piece. -/
theorem piecesAt_append_of_not_mem {cs ds l : List Char} {ls : List (List Char)} (hcs : sep ∉ cs)
    (h : piecesAt sep ds = l :: ls) : piecesAt sep (cs ++ ds) = (cs ++ l) :: ls := by
  induction cs with
  | nil => exact h
  | cons c cs ih =>
    rw [List.mem_cons, not_or] at hcs
    exact piecesAt_cons (Ne.symm hcs.1) (ih hcs.2)

/-- Characters without a separator add no piece. -/
theorem tail_piecesAt_append {cs : List Char} (hcs : sep ∉ cs) (ds : List Char) :
    (piecesAt sep (cs ++ ds)).tail = (piecesAt sep ds).tail := by
  obtain ⟨l, ls, hpieces⟩ := exists_piecesAt sep ds
  rw [piecesAt_append_of_not_mem hcs hpieces, hpieces]
  rfl

/-- What has no separator in it begins the text if it begins the first piece. -/
theorem prefix_iff_piece {word : List Char} (hword : sep ∉ word) {cs l : List Char}
    {ls : List (List Char)} (h : piecesAt sep cs = l :: ls) : word <+: cs ↔ word <+: l := by
  induction word generalizing cs l with
  | nil => exact iff_of_true (List.nil_prefix) (List.nil_prefix)
  | cons w word ih =>
    rw [List.mem_cons, not_or] at hword
    cases cs with
    | nil =>
      cases h
      rfl
    | cons c cs =>
      by_cases hc : c = sep
      · -- the first piece is empty, and the text begins with the separator
        rw [hc, piecesAt_sep] at h
        cases h
        rw [hc]
        simp [Ne.symm hword.1]
      · obtain ⟨m, ms, hpieces⟩ := exists_piecesAt sep cs
        rw [piecesAt_cons hc hpieces] at h
        cases h
        rw [List.cons_prefix_cons, List.cons_prefix_cons, ih hword.2 hpieces]

/-- **A separator with a word behind it stands in a text** exactly if a piece other than the
first begins with the word. -/
theorem infix_iff_piece {word : List Char} (hword : sep ∉ word) (cs : List Char) :
    (sep :: word) <:+: cs ↔ ∃ l ∈ (piecesAt sep cs).tail, word <+: l := by
  induction cs with
  | nil => simp [piecesAt]
  | cons c cs ih =>
    obtain ⟨l, ls, hpieces⟩ := exists_piecesAt sep cs
    rw [List.infix_cons_iff, List.cons_prefix_cons, ih, hpieces, List.tail_cons]
    by_cases hc : c = sep
    · rw [hc, piecesAt_sep, hpieces, List.tail_cons, prefix_iff_piece hword hpieces]
      simp
    · rw [piecesAt_cons hc hpieces, List.tail_cons]
      simp [Ne.symm hc]

end Pieces

/-! ## The first place -/

/-- **A separator is found where it was put**, behind a text in which it does not stand. -/
theorem cut?_append {sep : Char} {word : List Char} (hword : sep ∉ word) {front : List Char}
    (hfront : ¬ (sep :: word) <:+: front) (back : List Char) :
    cut? (sep :: word) (front ++ sep :: (word ++ back)) = some (front, back) := by
  induction front with
  | nil =>
    have hpre : (sep :: word).isPrefixOf (sep :: (word ++ back)) = true :=
      List.isPrefixOf_iff_prefix.mpr ⟨back, rfl⟩
    rw [List.nil_append, cut?, if_pos hpre]
    simp
  | cons c front ih =>
    rw [List.infix_cons_iff, not_or] at hfront
    have hno : ¬ (sep :: word) <+: c :: (front ++ sep :: (word ++ back)) := by
      rintro ⟨rest, hrest⟩
      rw [List.cons_append, List.cons.injEq] at hrest
      obtain ⟨rfl, hrest⟩ := hrest
      rcases List.append_eq_append_iff.mp hrest with ⟨mid, rfl, -⟩ | ⟨mid, hmid, hback⟩
      · exact hfront.1 ⟨mid, rfl⟩
      · cases mid with
        | nil => exact hfront.1 ⟨[], by rw [hmid, List.append_nil, List.append_nil]⟩
        | cons d mid =>
          -- the word would reach over the separator that was put behind the text
          obtain ⟨rfl, -⟩ := List.cons.inj hback
          exact hword (hmid ▸ List.mem_append_right front List.mem_cons_self)
    rw [List.cons_append, cut?, if_neg (hno ∘ List.isPrefixOf_iff_prefix.mp), ih hfront.2]
    rfl

/-- **The first place** is the one before which the separator does not stand. -/
theorem cut?_eq_some_iff {sep : Char} {word : List Char} (hword : sep ∉ word)
    {cs front back : List Char} :
    cut? (sep :: word) cs = some (front, back) ↔
      cs = front ++ sep :: (word ++ back) ∧ ¬ (sep :: word) <:+: front := by
  constructor
  · intro h
    fun_induction cut? (sep :: word) cs generalizing front with
    | case1 cs hpre =>
      obtain ⟨rest, rfl⟩ := List.isPrefixOf_iff_prefix.mp hpre
      rw [List.drop_left] at h
      cases h
      exact ⟨rfl, by simp⟩
    | case2 => cases h
    | case3 c cs hpre ih =>
      obtain ⟨⟨front', back'⟩, hcut, hsplit⟩ := Option.map_eq_some_iff.mp h
      cases hsplit
      obtain ⟨hcs, hno⟩ := ih hcut
      refine ⟨congrArg (c :: ·) hcs, ?_⟩
      rw [List.infix_cons_iff, not_or]
      refine ⟨fun hfront => hpre (List.isPrefixOf_iff_prefix.mpr ?_), hno⟩
      rw [hcs, ← List.cons_append]
      exact hfront.trans (List.prefix_append _ _)
  · rintro ⟨rfl, hfront⟩
    exact cut?_append hword hfront back

end ReporterBlocks.Text
