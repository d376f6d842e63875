import ReporterBlocks.Proofs.Specifier.Automaton
import ReporterBlocks.Proofs.Specifier.Joining

/-! # Following the advice of a warning

A stray closing delimiter can be escaped, an escape of nothing left out, and a slot that is
open at the end closed.  Each of these edits a text in one place.  The characters before
that place are read as before, and the place behind it is the same with the edit as
without, so what follows is read as before as well.  The pieces are therefore the same,
and one warning is gone (`Mends`, `mends_follow`).

That the pieces are the same is seen by the `Automaton`, which is left in one state by the
characters before the place, whatever is read of them.  The warnings are told apart by
where they come from (`mem_scan_cases`), and those behind a place outside every slot are
those of the rest by itself (`warnings_between`).
-/

namespace ReporterBlocks

/-! ## Edits -/

/-- The characters with one more put in behind `n` bytes. -/
def insertBehind (c : Char) : Nat → List Char → List Char
  | _, [] => [c]
  | n, d :: cs => if n = 0 then c :: d :: cs else d :: insertBehind c (n - d.utf8Size) cs

theorem insertBehind_append (c : Char) (front back : List Char) :
    insertBehind c (byteLength front) (front ++ back) = front ++ c :: back := by
  induction front with
  | nil => cases back <;> rfl
  | cons d front ih =>
    have hpos : d.utf8Size + byteLength front ≠ 0 := by
      have := d.utf8Size_pos
      omega
    rw [List.cons_append, insertBehind, byteLength_cons, if_neg hpos, Nat.add_sub_cancel_left, ih,
      List.cons_append]

/-- The report about another stretch of the text. -/
def Report.move (f : Nat → Nat) (r : Report) : Report :=
  { r with span := ⟨f r.span.start, f r.span.stop⟩ }

namespace Warning

/-- The characters with the advice of the warning followed. -/
def follow : Warning → List Char → List Char
  | strayCloser _ pos, cs => insertBehind escapeChar pos cs
  | danglingEscape _, cs => cs.dropLast
  | unterminatedSlot k _, cs => cs ++ [k.closing]
  | nothing, cs => cs

/-- Where a place of the text is found when the advice has been followed. -/
def place : Warning → Nat → Nat
  | strayCloser _ pos, n => if n ≤ pos then n else n + 1
  | danglingEscape pos, n => min n pos
  | unterminatedSlot _ _, n => n
  | nothing, n => n

theorem place_zero (w : Warning) : w.place 0 = 0 := by
  cases w <;> simp [place]

/-- Warnings of a lower rank are seen to first. -/
def rank : Warning → Nat
  | danglingEscape _ => 0
  | unterminatedSlot _ _ => 1
  | strayCloser _ _ => 2
  | nothing => 3

end Warning

/-! ## Where a warning comes from -/

section Scan
variable {cs front before behind body : List Char} {c : Char} {k : SlotKind} {w : Warning}

/-- **A warning tells what stands in the text.** -/
theorem mem_scan_cases (hw : w ∈ (scan 0 cs).2) :
    (∃ before c behind, Stray cs before c behind ∧ w = .strayCloser c (byteLength before)) ∨
    (∃ front, cs = front ++ [escapeChar] ∧ (standing front).escaped = false ∧
      w = .danglingEscape (byteLength front)) ∨
    ∃ before k body, LeftOpen cs before k body ∧
      w = .unterminatedSlot k ⟨byteLength before, byteLength cs⟩ := by
  obtain ⟨unterminated, hunterminated, hwarnings⟩ := scan_warnings 0 cs
  rw [hwarnings, List.mem_append, List.mem_append] at hw
  rcases hw with (hstray | hdangling) | hslot
  · obtain ⟨before, c, behind, hsplit, houtside, hcloser, rfl⟩ := mem_straysFrom.mp hstray
    have hstray : Stray cs before c behind := ⟨hsplit, isCloser_iff.mp hcloser, houtside⟩
    exact Or.inl ⟨before, c, behind, hstray, by rw [Nat.zero_add]⟩
  · right; left
    cases hescaped : (standing cs).escaped with
    | false => simp [hescaped, danglingWarning] at hdangling
    | true =>
      obtain ⟨front, rfl⟩ := eq_concat_of_odd_escapeRun ((standing_escaped_iff cs).mp hescaped)
      rw [hescaped, danglingWarning, if_pos rfl, List.mem_singleton] at hdangling
      refine ⟨front, rfl, ?_, ?_⟩
      · rw [standing_append, Standing.after_cons, Standing.after_nil,
          Standing.next_escaped] at hescaped
        simpa using hescaped
      · rw [hdangling, byteLength_append, byteLength_cons, byteLength_nil]
        congr 1
        omega
  · obtain ⟨before, k, body, hopen, rfl⟩ := (hunterminated.mem_iff w).mp hslot
    exact Or.inr (Or.inr ⟨before, k, body, hopen, by simp⟩)

/-- Nothing is warned about that is not there. -/
theorem span_le_of_mem_scan (hw : w ∈ (scan 0 cs).2) :
    w.span.start ≤ byteLength cs ∧ w.span.stop ≤ byteLength cs := by
  rcases mem_scan_cases hw with ⟨before, c, behind, h, rfl⟩ | ⟨front, rfl, -, rfl⟩ |
    ⟨before, k, body, h, rfl⟩
  · rw [h.split, byteLength_append, byteLength_cons]
    simp only [Warning.span]
    omega
  · rw [byteLength_append, byteLength_cons, byteLength_nil]
    simp only [Warning.span]
    omega
  · rw [h.split, byteLength_append]
    simp only [Warning.span]
    omega

/-- Where no slot is open at the end, there are strays and an escape of nothing. -/
theorem warnings_of_closed (hslot : (standing cs).slot? = none) :
    (scan 0 cs).2 =
      straysFrom .outside 0 cs ++ danglingWarning (standing cs).escaped (byteLength cs) := by
  obtain ⟨unterminated, hunterminated, hwarnings⟩ := scan_warnings 0 cs
  cases hunterminated with
  | closed => rw [hwarnings, Nat.zero_add, List.append_nil]
  | leftOpen h =>
    rw [h.slot_eq] at hslot
    cases hslot

/-- Where one is, it comes last. -/
theorem warnings_of_leftOpen (h : LeftOpen cs before k body) :
    (scan 0 cs).2 =
      straysFrom .outside 0 cs ++ danglingWarning (standing cs).escaped (byteLength cs) ++
        [.unterminatedSlot k ⟨byteLength before, byteLength cs⟩] := by
  obtain ⟨unterminated, hunterminated, hwarnings⟩ := scan_warnings 0 cs
  cases hunterminated with
  | closed hslot =>
    rw [h.slot_eq] at hslot
    cases hslot
  | leftOpen h' _ hspan =>
    obtain ⟨rfl, rfl⟩ := h.unique h'
    rw [hwarnings, hspan, Nat.zero_add, Nat.zero_add]

theorem exists_leftOpen (hslot : (standing cs).slot? = some k) :
    ∃ before body, LeftOpen cs before k body := by
  obtain ⟨unterminated, hunterminated, -⟩ := scan_warnings 0 cs
  cases hunterminated with
  | closed hclosed =>
    rw [hclosed] at hslot
    cases hslot
  | leftOpen h =>
    obtain rfl := Option.some.inj (h.slot_eq.symm.trans hslot)
    exact ⟨_, _, h⟩

/-- What stands behind a place outside every slot is warned about as if it stood by
itself. -/
theorem warnings_append (hcs : standing cs = .outside) (ds : List Char) :
    (scan 0 (cs ++ ds)).2 =
      (scan 0 cs).2 ++ (scan 0 ds).2.map (Warning.shift (byteLength cs)) := by
  by_cases hds : ds = [escapeChar]
  · -- behind a label this escape is read otherwise, but it is warned about
    subst hds
    have hend : standing (cs ++ [escapeChar]) = ⟨none, true⟩ := by
      rw [standing_append, hcs]
      rfl
    have hcloser : isCloser escapeChar = false := by decide
    rw [warnings_of_closed (congrArg Standing.slot? hend),
      warnings_of_closed (congrArg Standing.slot? hcs), hend, hcs, straysFrom_append]
    simp [straysFrom, hcloser, danglingWarning, scan_label 0 .dangling, strayClosers,
      Warning.shift, Standing.outside]
  · have happend := congrArg Prod.snd (scan_append 0 hcs hds)
    have hshift := congrArg Prod.snd (scan_shift (byteLength cs) 0 ds)
    rw [Nat.add_zero] at hshift
    rw [Nat.zero_add] at happend
    exact happend.trans (congrArg ((scan 0 cs).2 ++ ·) hshift)

/-- What stands between two places outside every slot is warned about in between. -/
theorem warnings_between {mid : List Char} (hfront : standing front = .outside)
    (hmid : standing (front ++ mid) = .outside) (back : List Char) :
    (scan 0 (front ++ mid ++ back)).2 =
      (scan 0 front).2 ++ straysFrom .outside (byteLength front) mid ++
        (scan 0 back).2.map (Warning.shift (byteLength front + byteLength mid)) := by
  have hafter : Standing.outside.after front = .outside := hfront
  rw [warnings_append hmid, warnings_of_closed (congrArg Standing.slot? hmid),
    warnings_of_closed (congrArg Standing.slot? hfront), hmid, hfront, straysFrom_append, hafter,
    Nat.zero_add, byteLength_append]
  simp [danglingWarning, Standing.outside]

end Scan

/-! ## What an edit does -/

/-- **The advice of a warning is followed**: the same is read from `ds` as from `cs`, and
warned about but for that warning. -/
structure Mends (w : Warning) (cs ds : List Char) : Prop where
  pieces_eq : Automaton.read ds = Automaton.read cs
  warnings_eq : ∃ ws vs, (scan 0 cs).2 = ws ++ w :: vs ∧ w ∉ ws ∧ ∀ source,
    (scan 0 ds).2.map (Warning.report source) =
      (ws ++ vs).map fun v => (v.report source).move w.place

section Mends
variable {cs front before behind body : List Char} {c : Char} {k : SlotKind} {w : Warning}

/-- Reports about what stands before the edit are the same as ever. -/
theorem move_report_of_le {f : Nat → Nat} {n : Nat} (hf : ∀ q ≤ n, f q = q) (source : Nat)
    (hstart : w.span.start ≤ n) (hstop : w.span.stop ≤ n) :
    (w.report source).move f = w.report source := by
  simp only [Report.move, Warning.report, hf _ hstart, hf _ hstop]

/-- Reports about what stands behind it move along. -/
theorem move_report_shift {f : Nat → Nat} {m n : Nat} (hf : ∀ q, f (m + q) = n + q)
    (source : Nat) (hw : w ≠ .nothing) :
    ((w.shift m).report source).move f = (w.shift n).report source := by
  rw [Warning.report_shift hw, Warning.report_shift hw]
  simp only [Report.move, Report.shift, Span.shift, hf]

/-- The delimiter is escaped where it stands. -/
theorem Stray.follow_eq (h : Stray cs before c behind) :
    (Warning.strayCloser c (byteLength before)).follow cs =
      before ++ escapeChar :: c :: behind := by
  rw [h.split]
  exact insertBehind_append escapeChar before (c :: behind)

theorem Stray.plain (h : Stray cs before c behind) :
    c ≠ escapeChar ∧ SlotKind.ofOpening? c = none := by
  constructor
  · rintro rfl
    exact absurd h.closer (by decide)
  · cases hopening : SlotKind.ofOpening? c with
    | none => rfl
    | some k =>
      have hcloser := h.closer
      rw [SlotKind.eq_opening_of_ofOpening? hopening] at hcloser
      cases k <;> exact absurd hcloser (by decide)

/-- With an escape or without, the delimiter is taken up for itself. -/
theorem Stray.read_escaped (h : Stray cs before c behind) :
    Automaton.read (before ++ escapeChar :: c :: behind) = Automaton.read cs := by
  obtain ⟨hescape, hopens⟩ := h.plain
  have hplace : (Automaton.start.after before).toStanding = .outside :=
    (Automaton.standing_after before).trans h.outside
  have hescaped : (Automaton.start.after before).escaped = false :=
    congrArg Standing.escaped hplace
  have hslot : (Automaton.start.after before).slot? = none := congrArg Standing.slot? hplace
  rw [h.split, Automaton.read, Automaton.read, Automaton.after_append, Automaton.after_append,
    Automaton.after_cons, Automaton.after_cons, Automaton.after_cons,
    Automaton.next_escaped hescaped, Automaton.next_plain_outside hescaped hslot hescape hopens]

/-- The place behind the delimiter is outside every slot, with the escape or without. -/
theorem Stray.warnings (h : Stray cs before c behind) :
    (scan 0 cs).2 = (scan 0 before).2 ++ .strayCloser c (byteLength before) ::
        (scan 0 behind).2.map (Warning.shift (byteLength before + c.utf8Size)) ∧
      (scan 0 (before ++ escapeChar :: c :: behind)).2 = (scan 0 before).2 ++
        (scan 0 behind).2.map
          (Warning.shift (byteLength before + (escapeChar.utf8Size + c.utf8Size))) := by
  obtain ⟨hescape, hopens⟩ := h.plain
  constructor
  · have hplace : standing (before ++ [c]) = .outside := by
      rw [standing_append, h.outside, Standing.after_cons, Standing.after_nil,
        Standing.outside_next_plain hescape hopens]
    have hwarnings := warnings_between h.outside hplace behind
    simpa [h.split, straysFrom, isCloser_iff.mpr h.closer] using hwarnings
  · have hplace : standing (before ++ [escapeChar, c]) = .outside := by
      rw [standing_append, h.outside, Standing.after_cons, Standing.after_cons,
        Standing.next_escapeChar rfl, Standing.after_nil]
    have hwarnings := warnings_between h.outside hplace behind
    rw [straysFrom_escaped _ rfl] at hwarnings
    simpa [straysFrom] using hwarnings

/-- **A stray delimiter** is no longer one when it is escaped. -/
theorem mends_stray (h : Stray cs before c behind) :
    Mends (.strayCloser c (byteLength before)) cs (before ++ escapeChar :: c :: behind) := by
  obtain ⟨hwarnings, hrepaired⟩ := h.warnings
  refine ⟨h.read_escaped, _, _, hwarnings, ?_, ?_⟩
  · intro hmem
    have hstop := (span_le_of_mem_scan hmem).2
    have := c.utf8Size_pos
    simp only [Warning.span] at hstop
    omega
  · intro source
    rw [hrepaired, List.map_append, List.map_append, List.map_map, List.map_map]
    congr 1
    · refine List.map_congr_left fun v hv => ?_
      obtain ⟨hstart, hstop⟩ := span_le_of_mem_scan hv
      exact (move_report_of_le (fun q hq => if_pos hq) source hstart hstop).symm
    · refine List.map_congr_left fun v hv => ?_
      refine (move_report_shift ?_ source ?_).symm
      · intro q
        have := c.utf8Size_pos
        have hsize : escapeChar.utf8Size = 1 := rfl
        rw [Warning.place, if_neg (by omega)]
        omega
      · rintro rfl
        exact nothing_not_mem_scan 0 behind hv

/-! ## At the end of the text -/

/-- An escape of nothing does not close the slot that it stands in. -/
theorem LeftOpen.concat_escapeChar (h : LeftOpen cs before k body) :
    LeftOpen (cs ++ [escapeChar]) before k (body ++ [escapeChar]) := by
  have hopens : Opens (cs ++ [escapeChar]) before k (body ++ [escapeChar]) :=
    ⟨by rw [h.split, List.append_assoc, List.cons_append], h.outside⟩
  refine hopens.leftOpen ?_
  intro name rest hbody
  cases rest using List.reverseRecOn with
  | nil =>
    exact absurd (List.append_inj_right' hbody rfl) (by simp [k.closing_ne_escapeChar.symm])
  | append_singleton rest d =>
    refine h.unclosed name rest ?_
    rw [← List.cons_append, ← List.append_assoc] at hbody
    exact List.append_inj_left' hbody rfl

theorem straysFrom_concat_escapeChar (s : Standing) (pos : Nat) (cs : List Char) :
    straysFrom s pos (cs ++ [escapeChar]) = straysFrom s pos cs := by
  have hcloser : isCloser escapeChar = false := by decide
  rw [straysFrom_append]
  simp [straysFrom, hcloser]

/-- The strays are the first warnings, and no others are strays. -/
theorem not_mem_straysFrom (hw : ∀ c pos, w ≠ .strayCloser c pos) (s : Standing) (pos : Nat) :
    w ∉ straysFrom s pos cs := by
  intro hmem
  obtain ⟨_, _, _, _, _, _, rfl⟩ := mem_straysFrom.mp hmem
  exact hw _ _ rfl

section Dangling
variable (hfront : (standing front).escaped = false)
include hfront

theorem standing_concat_escapeChar :
    standing (front ++ [escapeChar]) = ⟨(standing front).slot?, true⟩ := by
  rw [standing_append, Standing.after_cons, Standing.after_nil]
  simp [Standing.next, hfront]

/-- All that the escape changes is how the next character would be taken. -/
theorem read_concat_escapeChar : Automaton.read (front ++ [escapeChar]) = Automaton.read front := by
  have hescaped : (Automaton.start.after front).escaped = false := by
    rw [← hfront, ← Automaton.standing_after]
  rw [Automaton.read, Automaton.read, Automaton.after_append]
  simp [Automaton.next, hescaped, Automaton.finish]

theorem danglingWarning_concat_escapeChar :
    danglingWarning (standing (front ++ [escapeChar])).escaped
        (byteLength (front ++ [escapeChar])) = [.danglingEscape (byteLength front)] := by
  rw [standing_concat_escapeChar hfront, byteLength_append]
  rfl

theorem warnings_dangling_of_closed (hslot : (standing front).slot? = none) :
    (scan 0 front).2 = straysFrom .outside 0 front ∧
      (scan 0 (front ++ [escapeChar])).2 =
        straysFrom .outside 0 front ++ [.danglingEscape (byteLength front)] := by
  have hend : (standing (front ++ [escapeChar])).slot? = none := by
    rw [standing_concat_escapeChar hfront, hslot]
  constructor
  · rw [warnings_of_closed hslot, hfront, danglingWarning, if_neg (by decide), List.append_nil]
  · rw [warnings_of_closed hend, straysFrom_concat_escapeChar,
      danglingWarning_concat_escapeChar hfront]

theorem warnings_dangling_of_leftOpen (h : LeftOpen front before k body) :
    (scan 0 front).2 = straysFrom .outside 0 front ++
        [.unterminatedSlot k ⟨byteLength before, byteLength front⟩] ∧
      (scan 0 (front ++ [escapeChar])).2 = straysFrom .outside 0 front ++
        [.danglingEscape (byteLength front),
          .unterminatedSlot k ⟨byteLength before, byteLength (front ++ [escapeChar])⟩] := by
  constructor
  · rw [warnings_of_leftOpen h, hfront, danglingWarning, if_neg (by decide), List.append_nil]
  · rw [warnings_of_leftOpen h.concat_escapeChar, straysFrom_concat_escapeChar,
      danglingWarning_concat_escapeChar hfront, List.append_assoc, List.singleton_append]

/-- **An escape of nothing** can be left out. -/
theorem mends_dangling :
    Mends (.danglingEscape (byteLength front)) (front ++ [escapeChar]) front := by
  have hlimit : ∀ q ≤ byteLength front, (Warning.danglingEscape (byteLength front)).place q = q :=
    fun q hq => Nat.min_eq_left hq
  have hstay : ∀ source, ∀ v ∈ (scan 0 front).2,
      (v.report source).move (Warning.danglingEscape (byteLength front)).place =
        v.report source := by
    intro source v hv
    obtain ⟨hstart, hstop⟩ := span_le_of_mem_scan hv
    exact move_report_of_le hlimit source hstart hstop
  have hnot : Warning.danglingEscape (byteLength front) ∉ straysFrom .outside 0 front :=
    not_mem_straysFrom (by simp) _ _
  refine ⟨(read_concat_escapeChar hfront).symm, ?_⟩
  cases hslot : (standing front).slot? with
  | none =>
    obtain ⟨hbefore, hafter⟩ := warnings_dangling_of_closed hfront hslot
    refine ⟨_, _, hafter, hnot, fun source => ?_⟩
    rw [List.append_nil, ← hbefore]
    exact (List.map_congr_left (hstay source)).symm
  | some k =>
    obtain ⟨before, body, hopen⟩ := exists_leftOpen hslot
    obtain ⟨hbefore, hafter⟩ := warnings_dangling_of_leftOpen hfront hopen
    refine ⟨_, _, hafter, hnot, fun source => ?_⟩
    rw [hbefore] at hstay ⊢
    rw [List.map_append, List.map_append]
    congr 1
    · exact (List.map_congr_left fun v hv => hstay source v (List.mem_append_left _ hv)).symm
    · -- the open slot ends where the text does
      have hstart := hlimit (byteLength before) (by rw [hopen.split, byteLength_append]; omega)
      have hstop : (Warning.danglingEscape (byteLength front)).place
          (byteLength (front ++ [escapeChar])) = byteLength front := by
        rw [byteLength_append]
        exact Nat.min_eq_right (Nat.le_add_right _ _)
      simp only [List.map_cons, List.map_nil, Report.move, Warning.report, Warning.span, hstart,
        hstop]
      rfl

end Dangling

/-- **A slot that is left open** can be closed, if its delimiter would not be escaped. -/
theorem mends_unterminated (h : LeftOpen cs before k body)
    (hescaped : (standing cs).escaped = false) :
    Mends (.unterminatedSlot k ⟨byteLength before, byteLength cs⟩) cs (cs ++ [k.closing]) := by
  have hplace : standing cs = .inside k := by
    rw [Standing.inside, ← h.slot_eq, ← hescaped]
  have hend : standing (cs ++ [k.closing]) = .outside := by
    rw [standing_append, hplace, Standing.after_cons, Standing.after_nil,
      Standing.inside_next_closing]
  refine ⟨?_, ?_⟩
  · have hautomaton : (Automaton.start.after cs).toStanding = .inside k :=
      (Automaton.standing_after cs).trans hplace
    have hslot : (Automaton.start.after cs).slot? = some k := congrArg Standing.slot? hautomaton
    rw [Automaton.read, Automaton.read, Automaton.after_append, Automaton.after_cons,
      Automaton.after_nil, Automaton.next_closing (congrArg Standing.escaped hautomaton) hslot]
    simp [Automaton.finish, hslot, Standing.outside, labelPieces_nil]
  · have hbefore := warnings_of_leftOpen h
    have hafter := warnings_of_closed (congrArg Standing.slot? hend)
    have hstrays : straysFrom .outside 0 (cs ++ [k.closing]) = straysFrom .outside 0 cs := by
      have hinside : Standing.outside.after cs = .inside k := hplace
      rw [straysFrom_append, hinside]
      simp [straysFrom, Standing.inside_ne_outside]
    rw [hend, hstrays] at hafter
    rw [hplace] at hbefore
    simp only [danglingWarning, Standing.outside, Standing.inside, Bool.false_eq_true, if_false,
      List.append_nil] at hafter hbefore
    refine ⟨_, _, hbefore, not_mem_straysFrom (by simp) _ _, fun source => ?_⟩
    rw [hafter, List.append_nil]
    rfl

end Mends

/-- **Whatever the advice, it can be followed**, save that a slot can be closed only where no
escape of nothing would swallow its delimiter. -/
theorem mends_follow {cs : List Char} {w : Warning} (hw : w ∈ (scan 0 cs).2)
    (hfree : w.rank = 1 → ∀ pos, .danglingEscape pos ∉ (scan 0 cs).2) :
    Mends w cs (w.follow cs) := by
  rcases mem_scan_cases hw with ⟨before, c, behind, h, rfl⟩ | ⟨front, rfl, hfront, rfl⟩ |
    ⟨before, k, body, h, rfl⟩
  · rw [h.follow_eq]
    exact mends_stray h
  · rw [Warning.follow, List.dropLast_concat]
    exact mends_dangling hfront
  · refine mends_unterminated h ?_
    by_contra hescaped
    rw [Bool.not_eq_false] at hescaped
    refine hfree rfl (byteLength cs - escapeChar.utf8Size) ?_
    rw [warnings_of_leftOpen h, hescaped]
    simp [danglingWarning]

end ReporterBlocks
