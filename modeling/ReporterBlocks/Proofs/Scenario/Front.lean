import Mathlib.Data.List.TakeWhile
import ReporterBlocks.Proofs.Session.Listing
import ReporterBlocks.Scenario.Front

/-! # Front matter taken apart

`split` looks for the first line feed with three dashes behind it, wherever it stands.  A
text that is put together with line breaks around its two lines of dashes has it exactly
where it was put, if no line of the front matter begins with dashes itself; so the front
matter is read without the white space around it, and what is left over lists what the body
lists (`split_compose`).  Any other text is refused exactly if it does not begin with dashes
(`split_eq_unopened_iff`) or has no further line that does (`split_eq_unclosed_iff`).
-/

namespace ReporterBlocks.Front

/-- What may end a line. -/
def lineBreaks : List (List Char) := [['\n'], ['\r', '\n']]

/-- A text with front matter and a body, behind byte order marks. -/
def compose (marks : Nat) (lineBreak front body : List Char) : List Char :=
  List.replicate marks '\ufeff' ++ (delimiter ++ (lineBreak ++ front ++ lineBreak ++
    delimiter ++ lineBreak ++ body))

/-- The text without the byte order marks before it. -/
def unmarked (text : List Char) : List Char := text.dropWhile (· = '\ufeff')

theorem unmarked_replicate (marks : Nat) (rest : List Char) :
    unmarked (List.replicate marks '\ufeff' ++ (delimiter ++ rest)) = delimiter ++ rest := by
  rw [unmarked, List.dropWhile_append_of_pos (by simp)]
  rfl

/-- There is no line feed in the byte order marks, nor in the dashes behind them. -/
theorem exists_opening {text rest : List Char} (h : unmarked text = delimiter ++ rest) :
    ∃ opening, '\n' ∉ opening ∧ text = opening ++ rest := by
  refine ⟨text.takeWhile (· = '\ufeff') ++ delimiter, ?_, ?_⟩
  · rw [List.mem_append, not_or]
    refine ⟨fun hmem => ?_, by decide⟩
    exact absurd (List.mem_takeWhile_imp hmem) (by decide)
  · rw [List.append_assoc, ← h, unmarked, List.takeWhile_append_dropWhile]

/-! ## The front matter is cut off -/

section Split
variable {α : Type} (read : List Char → Except String α) {text rest front body : List Char}

theorem split_of_unopened (h : ¬ delimiter <+: unmarked text) :
    split read text = .error .unopened :=
  if_neg (h ∘ List.isPrefixOf_iff_prefix.mp)

theorem split_of_append (h : unmarked text = delimiter ++ rest) :
    split read text =
      match Text.cut? ('\n' :: delimiter) rest with
      | none => .error .unclosed
      | some (front, body) =>
        match read (Text.trim front) with
        | .error reason => .error (.front reason)
        | .ok config => .ok (config, body) := by
  have hpre : delimiter.isPrefixOf (unmarked text) = true :=
    List.isPrefixOf_iff_prefix.mpr ⟨rest, h.symm⟩
  have hdrop : (unmarked text).drop delimiter.length = rest := by rw [h, List.drop_left]
  calc split read text
      = if delimiter.isPrefixOf (unmarked text) then
          match Text.cut? ('\n' :: delimiter) ((unmarked text).drop delimiter.length) with
          | none => .error .unclosed
          | some (front, body) =>
            match read (Text.trim front) with
            | .error reason => .error (.front reason)
            | .ok config => .ok (config, body)
        else .error .unopened := rfl
    _ = _ := by rw [if_pos hpre, hdrop]

theorem split_of_cut (h : unmarked text = delimiter ++ rest)
    (hcut : Text.cut? ('\n' :: delimiter) rest = some (front, body)) :
    split read text =
      match read (Text.trim front) with
      | .error reason => .error (.front reason)
      | .ok config => .ok (config, body) := by
  rw [split_of_append read h, hcut]

/-- A text is refused as unopened only if it does not begin with dashes. -/
theorem split_eq_unopened_iff :
    split read text = .error .unopened ↔ ¬ delimiter <+: unmarked text := by
  refine ⟨?_, split_of_unopened read⟩
  rintro h ⟨rest, hrest⟩
  rw [split_of_append read hrest.symm] at h
  split at h
  · cases h
  · split at h <;> cases h

/-- It is refused as unclosed if no line but the first begins with dashes. -/
theorem split_eq_unclosed_iff :
    split read text = .error .unclosed ↔ delimiter <+: unmarked text ∧
      ∀ l ∈ (Text.piecesAt '\n' text).tail, ¬ delimiter <+: l := by
  by_cases hpre : delimiter <+: unmarked text
  · obtain ⟨rest, hrest⟩ := hpre
    obtain ⟨opening, hopening, htext⟩ := exists_opening hrest.symm
    have hlines : Text.cut? ('\n' :: delimiter) rest = none ↔
        ∀ l ∈ (Text.piecesAt '\n' text).tail, ¬ delimiter <+: l := by
      rw [Text.cut?_eq_none_iff, Text.infix_iff_piece (by decide), htext,
        Text.tail_piecesAt_append hopening]
      simp only [not_exists, not_and]
    rw [← hlines, and_iff_right ⟨rest, hrest⟩, split_of_append read hrest.symm]
    split
    · next hcut => exact iff_of_true rfl hcut
    · next hcut =>
      rw [hcut]
      split <;> simp
  · rw [split_of_unopened read hpre]
    simp [hpre]

end Split

/-! ## A text that is put together -/

/-- No line of the front matter begins with dashes, nor does one with a carriage return at
the end. -/
theorem feed_delimiter_not_infix {front : List Char}
    (hfront : ∀ l ∈ Text.piecesAt '\n' front, ¬ delimiter <+: l) :
    ¬ ('\n' :: delimiter) <:+: '\n' :: front ∧
      ¬ ('\n' :: delimiter) <:+: '\r' :: '\n' :: (front ++ ['\r']) := by
  have hplain : ¬ ('\n' :: delimiter) <:+: '\n' :: front := by
    rw [Text.infix_iff_piece (by decide), Text.piecesAt_sep, List.tail_cons]
    rintro ⟨l, hl, hpre⟩
    exact hfront l hl hpre
  refine ⟨hplain, ?_⟩
  -- a carriage return is no part of what is looked for
  rw [List.infix_cons_iff, ← List.cons_append, List.infix_concat_iff]
  rintro (hpre | hsuffix | hinfix)
  · exact absurd (List.cons_prefix_cons.mp hpre).1 (by decide)
  · obtain ⟨rest, hrest⟩ := hsuffix
    have hlast : (rest ++ ['\n', '-', '-']) ++ ['-'] = '\n' :: front ++ ['\r'] := by
      rw [← hrest, List.append_assoc]
      rfl
    exact absurd (List.append_inj_right' hlast rfl) (by decide)
  · exact hplain hinfix

/-- **A text that was put together** is taken apart again. -/
theorem split_compose {α : Type} (read : List Char → Except String α) (marks : Nat)
    {lineBreak front : List Char} (hbreak : lineBreak ∈ lineBreaks)
    (hfront : ∀ l ∈ Text.piecesAt '\n' front, ¬ delimiter <+: l) (body : List Char) :
    split read (compose marks lineBreak front body) =
      match read (Text.trim front) with
      | .error reason => .error (.front reason)
      | .ok config => .ok (config, lineBreak ++ body) := by
  obtain ⟨hfeed, hreturn⟩ := feed_delimiter_not_infix hfront
  have hopened := unmarked_replicate marks
    (lineBreak ++ front ++ lineBreak ++ delimiter ++ lineBreak ++ body)
  simp only [lineBreaks, List.mem_cons, List.not_mem_nil, or_false] at hbreak
  rcases hbreak with rfl | rfl
  · have hcut := Text.cut?_append (by decide) hfeed ('\n' :: body)
    have htrim : Text.trim ('\n' :: front) = Text.trim front := by
      have h := @Text.trim_append ['\n'] [] (by decide) (by decide) front
      rwa [List.append_nil] at h
    rw [compose, split_of_cut read hopened (by simpa using hcut), htrim]
    rfl
  · have hcut := Text.cut?_append (by decide) hreturn ('\r' :: '\n' :: body)
    have htrim : Text.trim ('\r' :: '\n' :: (front ++ ['\r'])) = Text.trim front :=
      @Text.trim_append ['\r', '\n'] ['\r'] (by decide) (by decide) front
    rw [compose, split_of_cut read hopened (by simpa using hcut), htrim]
    rfl

/-- What follows the closing dashes lists what the body does. -/
theorem specifierLines_lineBreak {lineBreak : List Char} (hbreak : lineBreak ∈ lineBreaks)
    (body : List Char) :
    specifierLines (String.ofList (lineBreak ++ body)) = specifierLines (String.ofList body) := by
  simp only [lineBreaks, List.mem_cons, List.not_mem_nil, or_false] at hbreak
  rcases hbreak with rfl | rfl
  · exact specifierLines_append [] body
  · exact specifierLines_append ['\r'] body

/-- **Scenarios are taken apart as they were put together.**  However the front matter is
read: if none of its lines begins with dashes, it is read without the white space around
it, and the text is a scenario exactly if it can be read, and otherwise refused for the
reason of the reader; what follows lists the specifiers of the body.  A text is refused as unopened exactly if it does not begin with
dashes, byte order marks apart, and otherwise as unclosed exactly if no later line does. -/
theorem splits_as_composed {α : Type} (read : List Char → Except String α) :
    (∀ marks lineBreak front body, lineBreak ∈ lineBreaks →
      (∀ l ∈ Text.piecesAt '\n' front, ¬ delimiter <+: l) →
      ∃ rest, specifierLines (String.ofList rest) = specifierLines (String.ofList body) ∧
        split read (compose marks lineBreak front body) =
          match read (Text.trim front) with
          | .error reason => .error (.front reason)
          | .ok config => .ok (config, rest)) ∧
    ∀ text,
      (split read text = .error .unopened ↔ ¬ delimiter <+: unmarked text) ∧
      (split read text = .error .unclosed ↔ delimiter <+: unmarked text ∧
        ∀ l ∈ (Text.piecesAt '\n' text).tail, ¬ delimiter <+: l) := by
  constructor
  · intro marks lineBreak front body hbreak hfront
    exact ⟨lineBreak ++ body, specifierLines_lineBreak hbreak body,
      split_compose read marks hbreak hfront body⟩
  · intro text
    exact ⟨split_eq_unopened_iff read, split_eq_unclosed_iff read⟩

/-- Dashes within lines of the front matter, and a line of dashes in the body. -/
theorem splits_as_composed_dashes :
    let front := " a---\n -- ".toList
    let body := "---\n# x\ny".toList
    (∀ l ∈ Text.piecesAt '\n' front, ¬ delimiter <+: l) ∧
      ∃ rest, specifierLines (String.ofList rest) = ["---", "y"] ∧
        split .ok (compose 2 ['\r', '\n'] front body) = .ok ("a---\n --".toList, rest) := by
  intro front body
  have hfront : ∀ l ∈ Text.piecesAt '\n' front, ¬ delimiter <+: l := by decide +kernel
  obtain ⟨rest, hrest, hsplit⟩ :=
    (splits_as_composed .ok).1 2 ['\r', '\n'] front body (by decide) hfront
  refine ⟨hfront, rest, ?_, hsplit⟩
  rw [hrest]
  decide +kernel

end ReporterBlocks.Front
