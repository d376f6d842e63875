import ReporterBlocks.Proofs.Scenario.Front

/-! # The lines that delimit front matter

Front matter stands between two lines of three dashes, and the text that opens it must be
followed by one that closes it.  What `split` asks of these two lines is only that they
begin with dashes: the opening line is the first one, and the closing line is the first
later one that does (`Delimited`).  What stands behind the dashes is no part of them.  On the
opening line it is read as front matter, and on the closing line it is the first line of the
body, which may list a specifier (`dashes_delimit`).

So a scenario is sure to be what its lines between the delimiters and behind them say only
if the delimiters are whole lines, with nothing but white space behind the dashes
(`WholeLines`), and `split` does not see to that (`dashes_with_text`).
-/

namespace ReporterBlocks.Front

/-- Lines put together. -/
def joinLines (ls : List (List Char)) : List Char := ['\n'].intercalate ls

/-- The lines of a text: an opening one that begins with dashes, inner ones that do not, a
closing one that does, and the rest.  `first` and `last` are what stands behind the dashes
of the opening and the closing line. -/
structure Delimited (text first : List Char) (inner : List (List Char)) (last : List Char)
    (rest : List (List Char)) : Prop where
  lines : Text.piecesAt '\n' (unmarked text) =
    (delimiter ++ first) :: (inner ++ (delimiter ++ last) :: rest)
  inner : ∀ l ∈ inner, ¬ delimiter <+: l

/-- **The delimiters are whole lines**, white space behind them apart. -/
def WholeLines (text : List Char) : Prop :=
  ∃ first inner last rest, Delimited text first inner last rest ∧
    first.all Text.isBlank = true ∧ last.all Text.isBlank = true

/-! ## The lines of what is split -/

section Lines
variable {text first last : List Char} {inner rest : List (List Char)}

/-- The lines of front matter and body are lines of the text, and the first line of each
stands behind dashes. -/
theorem piecesAt_delimited {front body : List Char}
    (hfront : Text.piecesAt '\n' front = first :: inner)
    (hbody : Text.piecesAt '\n' body = last :: rest) :
    Text.piecesAt '\n' (delimiter ++ (front ++ '\n' :: (delimiter ++ body))) =
      (delimiter ++ first) :: (inner ++ (delimiter ++ last) :: rest) := by
  rw [← List.append_assoc, Text.piecesAt_append,
    Text.piecesAt_append_of_not_mem (by decide) hfront,
    Text.piecesAt_append_of_not_mem (by decide) hbody, List.cons_append]

/-- **A text with delimiters** is front matter and a body with a line feed and dashes
between them, where the front matter has none. -/
theorem delimited_iff {front body : List Char}
    (hfront : Text.piecesAt '\n' front = first :: inner)
    (hbody : Text.piecesAt '\n' body = last :: rest) :
    Delimited text first inner last rest ↔
      unmarked text = delimiter ++ (front ++ '\n' :: (delimiter ++ body)) ∧
        ¬ ('\n' :: delimiter) <:+: front := by
  have hinner : (∀ l ∈ inner, ¬ delimiter <+: l) ↔ ¬ ('\n' :: delimiter) <:+: front := by
    rw [Text.infix_iff_piece (by decide), hfront]
    simp only [List.tail_cons, not_exists, not_and]
  have hlines := piecesAt_delimited hfront hbody
  constructor
  · rintro ⟨htext, hno⟩
    exact ⟨Text.piecesAt_injective '\n' (htext.trans hlines.symm), hinner.mp hno⟩
  · rintro ⟨htext, hno⟩
    exact ⟨htext ▸ hlines, hinner.mpr hno⟩

/-- No line holds a line feed. -/
theorem Delimited.feed_not_mem (h : Delimited text first inner last rest) :
    (∀ l ∈ first :: inner, '\n' ∉ l) ∧ ∀ l ∈ last :: rest, '\n' ∉ l := by
  have hlines : ∀ l ∈ (delimiter ++ first) :: (inner ++ (delimiter ++ last) :: rest), '\n' ∉ l :=
    fun l hl => Text.not_mem_of_mem_piecesAt (h.lines ▸ hl)
  have hbehind {l : List Char} (hl : '\n' ∉ delimiter ++ l) : '\n' ∉ l :=
    fun hmem => hl (List.mem_append_right _ hmem)
  simp only [List.forall_mem_cons, List.forall_mem_append] at hlines ⊢
  obtain ⟨hfirst, hinner, hlast, hrest⟩ := hlines
  exact ⟨⟨hbehind hfirst, hinner⟩, hbehind hlast, hrest⟩

end Lines

/-! ## What is read and listed -/

section Split
variable {α : Type} (read : List Char → Except String α) {text body : List Char} {config : α}

/-- **A text is split** at a line feed with dashes behind it, the first one there is. -/
theorem split_eq_ok_iff : split read text = .ok (config, body) ↔
    ∃ front, unmarked text = delimiter ++ (front ++ '\n' :: (delimiter ++ body)) ∧
      ¬ ('\n' :: delimiter) <:+: front ∧ read (Text.trim front) = .ok config := by
  constructor
  · intro h
    by_cases hpre : delimiter <+: unmarked text
    · obtain ⟨opened, hopened⟩ := hpre
      rw [split_of_append read hopened.symm] at h
      split at h
      · cases h
      · next front _ hcut =>
        split at h
        · cases h
        · next hread =>
          cases h
          obtain ⟨hcs, hno⟩ := (Text.cut?_eq_some_iff (by decide)).mp hcut
          exact ⟨front, hopened.symm.trans (congrArg (delimiter ++ ·) hcs), hno, hread⟩
    · rw [split_of_unopened read hpre] at h
      cases h
  · rintro ⟨front, htext, hno, hread⟩
    rw [split_of_cut read htext ((Text.cut?_eq_some_iff (by decide)).mpr ⟨rfl, hno⟩), hread]

/-- **Line by line**: what is read begins behind the opening dashes, and the body behind the
closing ones. -/
theorem split_eq_ok_iff_lines : split read text = .ok (config, body) ↔
    ∃ first inner last rest, Delimited text first inner last rest ∧
      read (Text.trim (joinLines (first :: inner))) = .ok config ∧
      body = joinLines (last :: rest) := by
  rw [split_eq_ok_iff]
  constructor
  · rintro ⟨front, htext, hno, hread⟩
    obtain ⟨first, inner, hfront⟩ := Text.exists_piecesAt '\n' front
    obtain ⟨last, rest, hbody⟩ := Text.exists_piecesAt '\n' body
    refine ⟨first, inner, last, rest, (delimited_iff hfront hbody).mpr ⟨htext, hno⟩, ?_, ?_⟩
    · rwa [joinLines, ← hfront, Text.intercalate_piecesAt]
    · rw [joinLines, ← hbody, Text.intercalate_piecesAt]
  · rintro ⟨first, inner, last, rest, hdelimited, hread, rfl⟩
    obtain ⟨hfirst, hlast⟩ := hdelimited.feed_not_mem
    have hfront := Text.piecesAt_intercalate hfirst (List.cons_ne_nil _ _)
    have hbody := Text.piecesAt_intercalate hlast (List.cons_ne_nil _ _)
    obtain ⟨htext, hno⟩ := (delimited_iff hfront hbody).mp hdelimited
    exact ⟨_, htext, hno, hread⟩

end Split

/-- A blank first line is no part of what is read. -/
theorem trim_joinLines {first : List Char} (hfirst : first.all Text.isBlank = true)
    (inner : List (List Char)) :
    Text.trim (joinLines (first :: inner)) = Text.trim (joinLines inner) := by
  have hblank {before : List Char} (hbefore : before.all Text.isBlank = true) (cs : List Char) :
      Text.trim (before ++ cs) = Text.trim cs := by
    have htrim := @Text.trim_append before [] hbefore rfl cs
    rwa [List.append_nil] at htrim
  cases inner with
  | nil =>
    rw [joinLines, List.intercalate_singleton, ← List.append_nil first, hblank hfirst]
    rfl
  | cons l ls =>
    have hfeed : (first ++ ['\n']).all Text.isBlank = true := by
      rw [List.all_append, hfirst]
      rfl
    rw [joinLines, List.intercalate_cons_cons, hblank hfeed, joinLines]

theorem specifierLines_joinLines (last : List Char) (rest : List (List Char)) :
    specifierLines (String.ofList (joinLines (last :: rest))) =
      specifierLines (String.ofList last) ++ specifierLines (String.ofList (joinLines rest)) := by
  cases rest with
  | nil =>
    rw [joinLines, List.intercalate_singleton]
    exact (List.append_nil _).symm
  | cons l ls =>
    rw [joinLines, List.intercalate_cons_cons, List.append_assoc, List.singleton_append,
      specifierLines_append, joinLines]

/-- A blank line lists nothing. -/
theorem specifierLines_of_blank {l : List Char} (hl : '\n' ∉ l)
    (hblank : l.all Text.isBlank = true) : specifierLines (String.ofList l) = [] := by
  have hnone : l.find? (fun c => !Text.isBlank c) = none := by
    rw [List.find?_eq_none]
    intro c hc
    rw [List.all_eq_true.mp hblank c hc]
    exact Bool.false_ne_true
  refine specifierLines_of_silent (by rwa [String.toList_ofList]) fun c hc => ?_
  rw [String.toList_ofList, hnone] at hc
  cases hc

/-- **Lines that begin with dashes delimit the front matter.**  However the front matter is
read: a text is a scenario exactly if its first line begins with dashes and a later one
does, and what can be read is the rest of the first line with the lines up to the first
such line, whose own rest is the first line of the body.  So what stands behind the closing
dashes is listed with the specifiers of the body; only where the delimiters are whole lines
is nothing on them read or listed. -/
theorem dashes_delimit {α : Type} (read : List Char → Except String α) (text : List Char) :
    (∀ config body, split read text = .ok (config, body) ↔
      ∃ first inner last rest, Delimited text first inner last rest ∧
        read (Text.trim (joinLines (first :: inner))) = .ok config ∧
        body = joinLines (last :: rest)) ∧
    ∀ first inner last rest, Delimited text first inner last rest →
      specifierLines (String.ofList (joinLines (last :: rest))) =
        specifierLines (String.ofList last) ++
          specifierLines (String.ofList (joinLines rest)) ∧
      (first.all Text.isBlank = true →
        Text.trim (joinLines (first :: inner)) = Text.trim (joinLines inner)) ∧
      (last.all Text.isBlank = true → specifierLines (String.ofList last) = []) := by
  refine ⟨fun config body => split_eq_ok_iff_lines read, ?_⟩
  intro first inner last rest hdelimited
  have hlast := hdelimited.feed_not_mem.2 last List.mem_cons_self
  exact ⟨specifierLines_joinLines last rest, fun hfirst => trim_joinLines hfirst inner,
    specifierLines_of_blank hlast⟩

/-- Delimiters with white space behind them: nothing on them is read or listed. -/
theorem dashes_delimit_whole :
    let text := "--- \r\na = 1\n---\t\ng".toList
    Delimited text " \r".toList ["a = 1".toList] "\t".toList ["g".toList] ∧
      split .ok text = .ok ("a = 1".toList, "\t\ng".toList) ∧
      specifierLines "\t\ng" = ["g"] := by
  intro text
  have hdelimited : Delimited text " \r".toList ["a = 1".toList] "\t".toList ["g".toList] :=
    ⟨by decide +kernel, by decide +kernel⟩
  obtain ⟨hsplit, hparts⟩ := dashes_delimit .ok text
  obtain ⟨hlist, htrim, hlast⟩ := hparts _ _ _ _ hdelimited
  refine ⟨hdelimited, (hsplit _ _).mpr ⟨_, _, _, _, hdelimited, ?_, by decide +kernel⟩, ?_⟩
  · rw [htrim (by decide +kernel)]
    decide +kernel
  · have hbody : specifierLines "\t\ng" = specifierLines "\t" ++ specifierLines "g" := hlist
    have hblank : specifierLines "\t" = [] := hlast (by decide +kernel)
    rw [hbody, hblank]
    decide +kernel

/-- Both delimiters have text behind the dashes, and still the text is split: the one is read
as front matter and the other lists a specifier. -/
theorem dashes_with_text :
    let text := "---queue_limit = 1\n--- say [msg]\n".toList
    ¬ WholeLines text ∧
      split .ok text = .ok ("queue_limit = 1".toList, " say [msg]\n".toList) ∧
      specifierLines " say [msg]\n" = [" say [msg]"] := by
  intro text
  refine ⟨?_, by decide +kernel, by decide +kernel⟩
  rintro ⟨first, inner, last, rest, hdelimited, hfirst, -⟩
  have hlines : Text.piecesAt '\n' (unmarked text) =
      (delimiter ++ "queue_limit = 1".toList) :: ["--- say [msg]".toList, []] := by
    decide +kernel
  have hopening := (List.cons.inj (hlines.symm.trans hdelimited.lines)).1
  rw [← List.append_cancel_left hopening] at hfirst
  exact absurd hfirst (by decide)

end ReporterBlocks.Front
