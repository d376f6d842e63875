import ReporterBlocks.Proofs.Specifier.Standing

/-! # What is warned about

Four things in a specifier are warned about: closing delimiters that stand outside every
slot (`Stray`), an escape of nothing at the end, a slot that is left open (`LeftOpen`), and
that nothing was written.  `Anomalies` lists the warnings about them, kind by kind, by
where the characters of the text stand, and `Reported` puts these in words; so the reports
about a text are what `warnings_exact` says, in that order.
-/

namespace ReporterBlocks

/-- A closing delimiter that is not escaped and stands outside every slot. -/
structure Stray (cs before : List Char) (c : Char) (behind : List Char) : Prop where
  split : cs = before ++ c :: behind
  closer : c = ']' ∨ c = ')' ∨ c = '>'
  outside : standing before = .outside

theorem isCloser_iff {c : Char} : isCloser c = true ↔ c = ']' ∨ c = ')' ∨ c = '>' := by
  simp [isCloser, or_assoc]

/-- A slot is opened behind `before`. -/
structure Opens (cs before : List Char) (k : SlotKind) (body : List Char) : Prop where
  split : cs = before ++ k.opening :: body
  outside : standing before = .outside

/-- The slot opened behind `before` is the last one, and none of the closing delimiters of
its kind that follow is unescaped. -/
structure LeftOpen (cs before : List Char) (k : SlotKind) (body : List Char) : Prop
    extends Opens cs before k body where
  last : ∀ before' k' body', Opens cs before' k' body' → before'.length ≤ before.length
  unclosed : ∀ name rest, body = name ++ k.closing :: rest →
    (standing (before ++ k.opening :: name)).escaped = true

/-! ## Slots that are left open -/

section Opened
variable {cs before body : List Char} {k : SlotKind}

section Unclosed
variable (h : Opens cs before k body)
  (hunclosed : ∀ name rest, body = name ++ k.closing :: rest →
    (standing (before ++ k.opening :: name)).escaped = true)
include h hunclosed

/-- A slot stays open as long as its closing delimiters are escaped. -/
theorem Opens.slot_eq {name rest : List Char} (hbody : body = name ++ rest) :
    (standing (before ++ k.opening :: name)).slot? = some k := by
  -- on the characters from the opening delimiter on, the last one at the end
  induction name using List.reverseRecOn generalizing rest with
  | nil => simp [standing_append, h.outside, Standing.inside]
  | append_singleton name c ih =>
    rw [List.append_assoc] at hbody
    have hslot := ih hbody
    have hescaped : c = k.closing → (standing (before ++ k.opening :: name)).escaped = true := by
      rintro rfl
      exact hunclosed name rest hbody
    rw [← List.cons_append, ← List.append_assoc, standing_append]
    generalize standing (before ++ k.opening :: name) = s at hslot hescaped
    obtain ⟨slot?, escaped⟩ := s
    cases hslot
    cases escaped with
    | true => rfl
    | false =>
      have hc : c ≠ k.closing := fun hc => Bool.noConfusion (hescaped hc)
      by_cases hesc : c = escapeChar <;> simp [Standing.next, hc, hesc]

theorem Opens.leftOpen : LeftOpen cs before k body where
  toOpens := h
  unclosed := hunclosed
  last := by
    intro before' k' body' h'
    by_contra hlt
    -- the later slot would be opened inside the earlier one
    obtain ⟨behind, hbehind⟩ : ∃ behind, before' = before ++ behind := by
      have hprefix : before <+: before' :=
        List.prefix_of_prefix_length_le ⟨_, h.split.symm⟩ ⟨_, h'.split.symm⟩ (by omega)
      exact hprefix.imp fun _ => Eq.symm
    subst hbehind
    have hsplit := h.split.symm.trans h'.split
    rw [List.append_assoc, List.append_cancel_left_eq] at hsplit
    cases behind with
    | nil => simp at hlt
    | cons c name =>
      obtain ⟨rfl, hbody⟩ := List.cons.inj hsplit
      have hslot := h.slot_eq hunclosed hbody
      rw [h'.outside] at hslot
      cases hslot

end Unclosed

theorem LeftOpen.slot_eq (h : LeftOpen cs before k body) : (standing cs).slot? = some k := by
  rw [h.split]
  exact h.toOpens.slot_eq h.unclosed (List.append_nil body).symm

/-- At most one slot is left open. -/
theorem LeftOpen.unique (h : LeftOpen cs before k body) {before' body' : List Char}
    {k' : SlotKind} (h' : LeftOpen cs before' k' body') : before' = before ∧ k' = k := by
  have hlength : before'.length = before.length :=
    Nat.le_antisymm (h.last _ _ _ h'.toOpens) (h'.last _ _ _ h.toOpens)
  have hbefore := (List.append_inj (h'.split.symm.trans h.split) hlength).1
  exact ⟨hbefore, Option.some.inj (h'.slot_eq.symm.trans h.slot_eq)⟩

/-- What stands behind a place outside every slot may be taken by itself. -/
theorem LeftOpen.append (h : LeftOpen cs before k body) {front : List Char}
    (hfront : standing front = .outside) :
    LeftOpen (front ++ cs) (front ++ before) k body := by
  have hopens : Opens (front ++ cs) (front ++ before) k body :=
    ⟨by rw [h.split, List.append_assoc],
      (standing_append_of_outside hfront before).trans h.outside⟩
  refine hopens.leftOpen ?_
  intro name rest hbody
  rw [List.append_assoc, standing_append_of_outside hfront]
  exact h.unclosed name rest hbody

end Opened

/-- In the name of a slot its closing delimiter is escaped. -/
theorem SlotKind.Spells.escaped_closing {k : SlotKind} {body name : List Char} {dangling : Bool}
    (h : k.Spells body name dangling) {front rest : List Char}
    (hbody : body = front ++ k.closing :: rest) :
    ((Standing.inside k).after front).escaped = true := by
  induction h generalizing front with
  | nil => simp at hbody
  | dangling =>
    cases front with
    | nil => exact absurd (List.cons.inj hbody).1 k.closing_ne_escapeChar.symm
    | cons c front => simp at hbody
  | escaped d _ ih =>
    rcases front with _ | ⟨c, _ | ⟨c', front⟩⟩
    · exact absurd (List.cons.inj hbody).1 k.closing_ne_escapeChar.symm
    · -- the delimiter is the character that is escaped
      rw [Standing.after_cons, Standing.after_nil, ← (List.cons.inj hbody).1]
      rfl
    · simp only [List.cons_append, List.cons.injEq] at hbody
      obtain ⟨rfl, rfl, hbody⟩ := hbody
      rw [Standing.after_cons, Standing.after_cons, Standing.next_escapeChar rfl]
      exact ih hbody
  | plain d hd hcloses _ ih =>
    cases front with
    | nil => exact absurd (List.cons.inj hbody).1 (SlotKind.closes_eq_none_iff.mp hcloses)
    | cons c front =>
      simp only [List.cons_append, List.cons.injEq] at hbody
      obtain ⟨rfl, hbody⟩ := hbody
      rw [Standing.after_cons, Standing.inside_next_plain hd hcloses]
      exact ih hbody

/-- A slot whose name runs to the end of the text is left open. -/
theorem leftOpen_unclosed {raw text body name : List Char} {k : SlotKind} {dangling : Bool}
    (h : LabelSpells raw text false) (hname : k.Spells body name dangling) :
    LeftOpen (raw ++ k.opening :: body) raw k body := by
  have hopens : Opens (raw ++ k.opening :: body) raw k body := ⟨rfl, standing_label h⟩
  refine hopens.leftOpen ?_
  intro front rest hbody
  rw [standing_append, hopens.outside, Standing.after_cons, Standing.outside_next_opening]
  exact hname.escaped_closing hbody

/-! ## Stray closing delimiters -/

/-- The warnings about the closing delimiters that stand outside every slot, among the
characters that follow a place. -/
def straysFrom (s : Standing) (pos : Nat) : List Char → List Warning
  | [] => []
  | c :: cs =>
    (if s = .outside ∧ isCloser c then [.strayCloser c pos] else []) ++
      straysFrom (s.next c) (pos + c.utf8Size) cs

theorem mem_straysFrom {s : Standing} {pos : Nat} {cs : List Char} {w : Warning} :
    w ∈ straysFrom s pos cs ↔ ∃ before c behind, cs = before ++ c :: behind ∧
      s.after before = .outside ∧ isCloser c = true ∧
      w = .strayCloser c (pos + byteLength before) := by
  induction cs generalizing s pos with
  | nil => simp [straysFrom]
  | cons c cs ih =>
    rw [straysFrom, List.mem_append, ih]
    constructor
    · rintro (hw | ⟨before, d, behind, rfl, hs, hd, rfl⟩)
      · split at hw
        · next h => exact ⟨[], c, cs, rfl, h.1, h.2, List.mem_singleton.mp hw⟩
        · cases hw
      · exact ⟨c :: before, d, behind, rfl, hs, hd, by simp [Nat.add_assoc]⟩
    · rintro ⟨before, d, behind, hsplit, hs, hd, rfl⟩
      cases before with
      | nil =>
        obtain ⟨rfl, rfl⟩ := List.cons.inj hsplit
        exact Or.inl (by simp_all)
      | cons c' before =>
        obtain ⟨rfl, rfl⟩ := List.cons.inj hsplit
        exact Or.inr ⟨before, d, behind, rfl, hs, hd, by simp [Nat.add_assoc]⟩

/-- The strays are found from left to right. -/
theorem straysFrom_increasing (s : Standing) (pos : Nat) (cs : List Char) :
    (straysFrom s pos cs).Pairwise fun v w => v.span.start < w.span.start := by
  induction cs generalizing s pos with
  | nil => exact .nil
  | cons c cs ih =>
    rw [straysFrom]
    split
    · refine List.pairwise_cons.mpr ⟨?_, ih _ _⟩
      intro w hw
      obtain ⟨before, d, -, -, -, -, rfl⟩ := mem_straysFrom.mp hw
      have := c.utf8Size_pos
      simp only [Warning.span]
      omega
    · exact ih _ _

theorem straysFrom_append (s : Standing) (pos : Nat) (cs ds : List Char) :
    straysFrom s pos (cs ++ ds) =
      straysFrom s pos cs ++ straysFrom (s.after cs) (pos + byteLength cs) ds := by
  induction cs generalizing s pos with
  | nil => rfl
  | cons c cs ih => simp [straysFrom, ih, Nat.add_assoc]

section Strays
variable {raw text body name : List Char} {dangling : Bool} {k : SlotKind} (pos : Nat)

/-- An escape and what it escapes are no strays. -/
theorem straysFrom_escaped {s : Standing} (hs : s.escaped = false) (c : Char) (cs : List Char) :
    straysFrom s pos (escapeChar :: c :: cs) =
      straysFrom s (pos + escapeChar.utf8Size + c.utf8Size) cs := by
  have hescape : isCloser escapeChar = false := by decide
  have hnext : s.next escapeChar ≠ .outside := by simp [Standing.next, Standing.outside, hs]
  rw [straysFrom, straysFrom, Standing.next_escapeChar hs]
  simp [hescape, hnext]

theorem straysFrom_label (h : LabelSpells raw text dangling) :
    straysFrom .outside pos raw = strayClosers pos raw := by
  induction h generalizing pos with
  | nil => rfl
  | dangling => rfl
  | escaped c _ ih =>
    rw [straysFrom_escaped pos rfl, ih, strayClosers, if_pos rfl]
  | plain c hc hopens _ ih =>
    rw [straysFrom, Standing.outside_next_plain hc hopens, ih, strayClosers_plain hc]
    simp

theorem straysFrom_name (h : k.Spells body name dangling) :
    straysFrom (.inside k) pos body = [] := by
  induction h generalizing pos with
  | nil => rfl
  | dangling => simp [straysFrom, Standing.inside_ne_outside]
  | escaped c _ ih => rw [straysFrom_escaped pos rfl, ih]
  | plain c hc hcloses _ ih =>
    rw [straysFrom, Standing.inside_next_plain hc hcloses, ih]
    simp [Standing.inside_ne_outside]

/-- A slot adds no strays. -/
theorem straysFrom_unclosed (h : LabelSpells raw text false) (hname : k.Spells body name dangling) :
    straysFrom .outside pos (raw ++ k.opening :: body) = strayClosers pos raw := by
  have hcloser : isCloser k.opening = false := by cases k <;> decide
  have hraw : Standing.outside.after raw = .outside := standing_label h
  rw [straysFrom_append, straysFrom_label pos h, hraw, straysFrom,
    Standing.outside_next_opening, straysFrom_name _ hname]
  simp [hcloser]

theorem straysFrom_slot (h : LabelSpells raw text false) (hname : k.Spells body name false)
    (rest : List Char) :
    straysFrom .outside pos (raw ++ k.opening :: (body ++ k.closing :: rest)) =
      strayClosers pos raw ++
        straysFrom .outside (pos + byteLength raw + byteLength (k.enclose body)) rest := by
  have hopen : Standing.outside.after (raw ++ k.opening :: body) = .inside k :=
    standing_unclosed h hname
  have hsplit : raw ++ k.opening :: (body ++ k.closing :: rest) =
      (raw ++ k.opening :: body) ++ k.closing :: rest := by simp
  rw [hsplit, straysFrom_append, straysFrom_unclosed pos h hname, hopen, straysFrom,
    Standing.inside_next_closing]
  simp [Standing.inside_ne_outside, SlotKind.enclose, Nat.add_assoc]

end Strays

/-! ## All warnings -/

/-- The warnings about a slot that is left open, which is the last fragment. -/
inductive Unterminated (pos : Nat) (cs : List Char) (fs : List Fragment) : List Warning → Prop
  | closed (hslot : (standing cs).slot? = none) : Unterminated pos cs fs []
  | leftOpen {before : List Char} {k : SlotKind} {body : List Char}
      (h : LeftOpen cs before k body) {f : Fragment} (hlast : f ∈ fs.getLast?)
      (hspan : f.span = ⟨pos + byteLength before, pos + byteLength cs⟩) :
      Unterminated pos cs fs [.unterminatedSlot k f.span]

theorem Unterminated.append {pos : Nat} {front cs : List Char} {fs : List Fragment}
    {ws : List Warning} (hfront : standing front = .outside)
    (h : Unterminated (pos + byteLength front) cs fs ws) (gs : List Fragment) :
    Unterminated pos (front ++ cs) (gs ++ fs) ws := by
  cases h with
  | closed hslot => exact .closed (by rwa [standing_append_of_outside hfront])
  | leftOpen h hlast hspan =>
    refine .leftOpen (h.append hfront) (List.mem_getLast?_append_of_mem_getLast? hlast) ?_
    rw [hspan, byteLength_append, byteLength_append, Nat.add_assoc, Nat.add_assoc]

theorem Unterminated.mem_iff {pos : Nat} {cs : List Char} {fs : List Fragment}
    {ws : List Warning} (h : Unterminated pos cs fs ws) (w : Warning) :
    w ∈ ws ↔ ∃ before k body, LeftOpen cs before k body ∧
      w = .unterminatedSlot k ⟨pos + byteLength before, pos + byteLength cs⟩ := by
  cases h with
  | closed hslot =>
    refine iff_of_false List.not_mem_nil ?_
    rintro ⟨before, k, body, h, -⟩
    rw [h.slot_eq] at hslot
    cases hslot
  | leftOpen h hlast hspan =>
    rw [List.mem_singleton, hspan]
    constructor
    · rintro rfl
      exact ⟨_, _, _, h, rfl⟩
    · rintro ⟨before, k, body, h', rfl⟩
      obtain ⟨rfl, rfl⟩ := h.unique h'
      rfl

/-- **What `scan` warns about**: the strays, an escape of nothing, and a slot that is left
open. -/
theorem scan_warnings (pos : Nat) (cs : List Char) :
    ∃ unterminated, Unterminated pos cs (scan pos cs).1 unterminated ∧
      (scan pos cs).2 = straysFrom .outside pos cs ++
        danglingWarning (standing cs).escaped (pos + byteLength cs) ++ unterminated := by
  induction layout cs generalizing pos with
  | label h =>
    have hstanding := standing_label h
    refine ⟨[], .closed (by rw [hstanding]), ?_⟩
    rw [scan_label pos h, straysFrom_label pos h, hstanding, List.append_nil]
  | @unclosed raw text h k body name dangling hname =>
    have hlast : ⟨.slot k (String.ofList name), ⟨pos + byteLength raw,
        pos + byteLength (raw ++ k.opening :: body)⟩⟩ ∈
          (scan pos (raw ++ k.opening :: body)).1.getLast? := by
      rw [scan_unclosed pos h hname]
      simp [Nat.add_assoc]
    refine ⟨_, .leftOpen (leftOpen_unclosed h hname) hlast rfl, ?_⟩
    rw [scan_unclosed pos h hname, straysFrom_unclosed pos h hname, standing_unclosed h hname]
    simp [Nat.add_assoc]
  | @slot raw text h k body name hname rest _ ih =>
    obtain ⟨unterminated, hunterminated, hwarnings⟩ :=
      ih (pos + byteLength raw + byteLength (k.enclose body))
    refine ⟨unterminated, ?_, ?_⟩
    · -- the slot is closed, so the rest may be taken by itself
      have hclosed : standing (raw ++ k.enclose body) = .outside := standing_slot h hname
      rw [Nat.add_assoc, ← byteLength_append] at hunterminated
      let start := pos + byteLength raw
      have happend := hunterminated.append hclosed (labelFragment text ⟨pos, start⟩ ++
        [⟨.slot k (String.ofList name), ⟨start, start + byteLength (k.enclose body)⟩⟩])
      rw [scan_slot pos h hname]
      simpa [SlotKind.enclose, start, Nat.add_assoc] using happend
    · rw [scan_slot pos h hname, straysFrom_slot pos h hname, standing_slot h hname, hwarnings]
      simp [SlotKind.enclose, Nat.add_assoc]

/-! ## Where the warnings are -/

section Cuts
variable {text : String} {before : List Char}

theorem Stray.cuts {c : Char} {behind : List Char} (h : Stray text.toList before c behind) :
    (Warning.strayCloser c (byteLength before)).span.Cuts text (String.singleton c) := by
  have hsplit : text.toList = before ++ [c] ++ behind := by simpa using h.split
  simpa [Warning.span] using Span.cuts_of_append hsplit

theorem LeftOpen.cuts {k : SlotKind} {body : List Char} (h : LeftOpen text.toList before k body) :
    Span.Cuts ⟨byteLength before, text.utf8ByteSize⟩ text (String.ofList (k.opening :: body)) := by
  have hsplit : text.toList = before ++ k.opening :: body ++ [] := by simpa using h.split
  have hsize : text.utf8ByteSize = byteLength before + byteLength (k.opening :: body) := by
    rw [← byteLength_toList, h.split, byteLength_append]
  rw [hsize]
  exact Span.cuts_of_append hsplit

theorem cuts_danglingEscape (h : Odd (escapeRun text.toList)) :
    let w : Warning := .danglingEscape (text.utf8ByteSize - 1)
    w.span = ⟨text.utf8ByteSize - 1, text.utf8ByteSize⟩ ∧ w.span.Cuts text "_" := by
  obtain ⟨front, hfront⟩ := eq_concat_of_odd_escapeRun h
  have hsize : text.utf8ByteSize = byteLength front + 1 := by
    rw [← byteLength_toList, hfront, byteLength_append]
    rfl
  rw [hsize, Nat.add_sub_cancel]
  have hsplit : text.toList = front ++ [escapeChar] ++ [] := by simpa using hfront
  exact ⟨rfl, Span.cuts_of_append hsplit⟩

end Cuts

/-- **The warnings about a text**, kind by kind, by where its characters stand. -/
structure Anomalies (text : String) (strays dangling unterminated nothing : List Warning) :
    Prop where
  /-- The strays are those of the text, each at its place, from left to right. -/
  mem_strays : ∀ w, w ∈ strays ↔ ∃ before c behind, Stray text.toList before c behind ∧
    w = .strayCloser c (byteLength before)
  increasing : strays.Pairwise fun v w => v.span.start < w.span.start
  /-- The text ends in an odd run of escape characters. -/
  dangling_eq : dangling =
    if Odd (escapeRun text.toList) then [.danglingEscape (text.utf8ByteSize - 1)] else []
  /-- The last slot is left open; it runs to the end of the text. -/
  mem_unterminated : ∀ w, w ∈ unterminated ↔
    ∃ before k body, LeftOpen text.toList before k body ∧
      w = .unterminatedSlot k ⟨byteLength before, text.utf8ByteSize⟩
  unterminated_length : unterminated.length ≤ 1
  /-- There is nothing to read. -/
  nothing_eq : nothing = if text = "" ∨ text = "_" then [.nothing] else []

namespace Anomalies
variable {text : String} {strays dangling unterminated nothing : List Warning}

/-- Where there is nothing to read, nothing is stray and no slot is open. -/
theorem eq_nil_of_nothing (h : Anomalies text strays dangling unterminated nothing)
    (hnothing : nothing ≠ []) : strays = [] ∧ unterminated = [] := by
  have hchars : ∀ c ∈ text.toList, c = escapeChar := by
    rw [h.nothing_eq] at hnothing
    split at hnothing
    · next htext => rcases htext with rfl | rfl <;> simp [escapeChar]
    · exact absurd rfl hnothing
  constructor
  · refine List.eq_nil_iff_forall_not_mem.mpr ?_
    rintro w hw
    obtain ⟨before, c, behind, hstray, -⟩ := (h.mem_strays w).mp hw
    obtain rfl := hchars c (by simp [hstray.split])
    exact absurd hstray.closer (by decide)
  · refine List.eq_nil_iff_forall_not_mem.mpr ?_
    intro w hw
    obtain ⟨before, k, body, hopen, -⟩ := (h.mem_unterminated w).mp hw
    exact k.opening_ne_escapeChar (hchars k.opening (by simp [hopen.split]))

/-- Every warning is about a slice of the text. -/
theorem cuts (h : Anomalies text strays dangling unterminated nothing) :
    ∀ w ∈ strays ++ dangling ++ unterminated ++ nothing, ∃ slice, w.span.Cuts text slice := by
  intro w hw
  simp only [List.mem_append] at hw
  rcases hw with ((hw | hw) | hw) | hw
  · obtain ⟨before, c, behind, hstray, rfl⟩ := (h.mem_strays w).mp hw
    exact ⟨_, hstray.cuts⟩
  · rw [h.dangling_eq] at hw
    split at hw
    · next hodd =>
      rw [List.mem_singleton.mp hw]
      exact ⟨_, (cuts_danglingEscape hodd).2⟩
    · cases hw
  · obtain ⟨before, k, body, hopen, rfl⟩ := (h.mem_unterminated w).mp hw
    exact ⟨_, hopen.cuts⟩
  · rw [h.nothing_eq] at hw
    split at hw
    · rw [List.mem_singleton.mp hw]
      have hsplit : text.toList = [] ++ [] ++ text.toList := rfl
      exact ⟨_, Span.cuts_of_append hsplit⟩
    · cases hw

end Anomalies

namespace Specifier

/-- Reading a text warns about its anomalies. -/
theorem anomalies_read (source : Nat) (text : String) :
    ∃ strays dangling unterminated nothing, Anomalies text strays dangling unterminated nothing ∧
      (read source text).warnings = strays ++ dangling ++ unterminated ++ nothing ∧
      ∀ w ∈ unterminated,
        (read source text).fragments.getLast?.map Fragment.span = some w.span := by
  obtain ⟨unterminated, hunterminated, hwarnings⟩ := scan_warnings 0 text.toList
  have hempty : (scan 0 text.toList).1 = [] ↔ text = "" ∨ text = "_" := by
    rw [scan_eq_nil_iff, String.toList_eq_nil_iff]
    exact or_congr_right ⟨fun h => String.toList_injective h, fun h => h ▸ rfl⟩
  rw [Nat.zero_add, byteLength_toList] at hwarnings
  refine ⟨straysFrom .outside 0 text.toList, _, unterminated,
    if text = "" ∨ text = "_" then [.nothing] else [],
    { mem_strays := ?_
      increasing := straysFrom_increasing _ _ _
      dangling_eq := rfl
      mem_unterminated := ?_
      unterminated_length := ?_
      nothing_eq := rfl }, ?_, ?_⟩
  · intro w
    rw [mem_straysFrom]
    constructor
    · rintro ⟨before, c, behind, hsplit, houtside, hcloser, rfl⟩
      exact ⟨before, c, behind, ⟨hsplit, isCloser_iff.mp hcloser, houtside⟩,
        by rw [Nat.zero_add]⟩
    · rintro ⟨before, c, behind, ⟨hsplit, hcloser, houtside⟩, rfl⟩
      exact ⟨before, c, behind, hsplit, houtside, isCloser_iff.mpr hcloser,
        by rw [Nat.zero_add]⟩
  · intro w
    simpa [byteLength_toList] using hunterminated.mem_iff w
  · cases hunterminated <;> simp
  · have hdangling : danglingWarning (standing text.toList).escaped text.utf8ByteSize =
        if Odd (escapeRun text.toList) then [.danglingEscape (text.utf8ByteSize - 1)] else [] := by
      rw [danglingWarning]
      exact if_congr (standing_escaped_iff _) rfl rfl
    rw [← hdangling, ← hwarnings]
    simp [read, hempty]
  · intro w hw
    cases hunterminated with
    | closed => cases hw
    | leftOpen h hlast hspan =>
      rw [List.mem_singleton.mp hw, read, Option.mem_def.mp hlast]
      rfl

end Specifier

/-! ## The words -/

/-- The report about a closing delimiter that stands outside every slot, behind `pos` bytes. -/
def strayReport (source : Nat) (c : Char) (pos : Nat) : Report :=
  ⟨.warning, "`" ++ String.singleton c ++ "` outside a slot is kept as label text", source,
    ⟨pos, pos + 1⟩, ["write `_" ++ String.singleton c ++ "` to make this explicit"]⟩

/-- The report about an escape of nothing at the end of a text of `size` bytes. -/
def danglingReport (source size : Nat) : Report :=
  ⟨.warning, "escape character at end of specifier is dropped", source, ⟨size - 1, size⟩,
    ["use `__` for a literal underscore"]⟩

/-- The report about a slot that is left open. -/
def openReport (source : Nat) (span : Span) : SlotKind → Report
  | .string => ⟨.warning, "unterminated string input slot", source, span,
      ["the slot runs to the end of the specifier; add `]` to close it"]⟩
  | .number => ⟨.warning, "unterminated number input slot", source, span,
      ["the slot runs to the end of the specifier; add `)` to close it"]⟩
  | .boolean => ⟨.warning, "unterminated boolean input slot", source, span,
      ["the slot runs to the end of the specifier; add `>` to close it"]⟩

/-- The report about a text in which there is nothing to read. -/
def nothingReport (source : Nat) : Report :=
  ⟨.warning, "specifier has no label and no slots", source, ⟨0, 0⟩, []⟩

/-- **The reports about a text**, kind by kind, by where its characters stand. -/
structure Reported (source : Nat) (text : String)
    (strays dangling unterminated nothing : List Report) : Prop where
  /-- The strays are those of the text, each at its place, from left to right. -/
  mem_strays : ∀ r, r ∈ strays ↔ ∃ before c behind, Stray text.toList before c behind ∧
    r = strayReport source c (byteLength before)
  increasing : strays.Pairwise fun r r' => r.span.start < r'.span.start
  /-- The text ends in an odd run of escape characters. -/
  dangling_eq : dangling =
    if Odd (escapeRun text.toList) then [danglingReport source text.utf8ByteSize] else []
  /-- The last slot is left open; it runs to the end of the text. -/
  mem_unterminated : ∀ r, r ∈ unterminated ↔
    ∃ before k body, LeftOpen text.toList before k body ∧
      r = openReport source ⟨byteLength before, text.utf8ByteSize⟩ k
  unterminated_length : unterminated.length ≤ 1
  /-- There is nothing to read. -/
  nothing_eq : nothing = if text = "" ∨ text = "_" then [nothingReport source] else []

section Words
variable (source : Nat) {text : String} {cs before behind body : List Char} {c : Char}
  {k : SlotKind}

theorem Stray.report_eq (h : Stray cs before c behind) :
    (Warning.strayCloser c (byteLength before)).report source =
      strayReport source c (byteLength before) := by
  have hsize : c.utf8Size = 1 := by rcases h.closer with rfl | rfl | rfl <;> rfl
  rw [Warning.report, Warning.span, hsize]
  rfl

theorem report_unterminatedSlot (span : Span) :
    (Warning.unterminatedSlot k span).report source = openReport source span k := by
  cases k <;> rfl

theorem report_danglingEscape (h : Odd (escapeRun text.toList)) :
    (Warning.danglingEscape (text.utf8ByteSize - 1)).report source =
      danglingReport source text.utf8ByteSize := by
  rw [Warning.report, (cuts_danglingEscape h).1]
  rfl

/-- Anomalies are reported in words. -/
theorem Anomalies.reported {strays dangling unterminated nothing : List Warning}
    (h : Anomalies text strays dangling unterminated nothing) :
    Reported source text (strays.map (Warning.report source))
      (dangling.map (Warning.report source)) (unterminated.map (Warning.report source))
      (nothing.map (Warning.report source)) where
  mem_strays r := by
    rw [List.mem_map]
    constructor
    · rintro ⟨w, hw, rfl⟩
      obtain ⟨before, c, behind, hstray, rfl⟩ := (h.mem_strays w).mp hw
      exact ⟨before, c, behind, hstray, hstray.report_eq source⟩
    · rintro ⟨before, c, behind, hstray, rfl⟩
      exact ⟨_, (h.mem_strays _).mpr ⟨before, c, behind, hstray, rfl⟩, hstray.report_eq source⟩
  increasing := List.pairwise_map.mpr h.increasing
  dangling_eq := by
    rw [h.dangling_eq]
    split
    · next hodd => rw [List.map_singleton, report_danglingEscape source hodd]
    · rfl
  mem_unterminated r := by
    rw [List.mem_map]
    constructor
    · rintro ⟨w, hw, rfl⟩
      obtain ⟨before, k, body, hopen, rfl⟩ := (h.mem_unterminated w).mp hw
      exact ⟨before, k, body, hopen, report_unterminatedSlot source _⟩
    · rintro ⟨before, k, body, hopen, rfl⟩
      exact ⟨_, (h.mem_unterminated _).mpr ⟨before, k, body, hopen, rfl⟩,
        report_unterminatedSlot source _⟩
  unterminated_length := by
    rw [List.length_map]
    exact h.unterminated_length
  nothing_eq := by
    rw [h.nothing_eq]
    split <;> rfl

end Words

namespace Specifier

/-- **The warnings are exactly the anomalies of the text**, in this order: each unescaped
closing delimiter outside every slot, from left to right; an escape of nothing at the end;
the last slot, which is also the last fragment, if it is left open; and that there is
nothing to read, which is never so together with the first or the third.  Each is reported
in its words, and is about a slice of the text. -/
theorem warnings_exact (source : Nat) (text : String) :
    let s := read source text
    ∃ strays dangling unterminated nothing,
      Reported source text strays dangling unterminated nothing ∧
      s.reports = strays ++ dangling ++ unterminated ++ nothing ∧
      (∀ r ∈ strays, ∃ c, (c = ']' ∨ c = ')' ∨ c = '>') ∧
        r.span.Cuts text (String.singleton c)) ∧
      (∀ r ∈ dangling, r.span.Cuts text "_") ∧
      (∀ r ∈ unterminated, s.fragments.getLast?.map Fragment.span = some r.span) ∧
      (nothing ≠ [] → strays = [] ∧ unterminated = []) ∧
      ∀ r ∈ s.reports, ∃ slice, r.span.Cuts text slice := by
  intro s
  obtain ⟨strays, dangling, unterminated, nothing, h, hwarnings, hlast⟩ :=
    anomalies_read source text
  have hreports : s.reports =
      (strays ++ dangling ++ unterminated ++ nothing).map (Warning.report source) :=
    congrArg (List.map (Warning.report source)) hwarnings
  refine ⟨_, _, _, _, h.reported source, ?_, ?_, ?_, ?_, ?_, ?_⟩
  · rw [hreports, List.map_append, List.map_append, List.map_append]
  · intro r hr
    obtain ⟨w, hw, rfl⟩ := List.mem_map.mp hr
    obtain ⟨before, c, behind, hstray, rfl⟩ := (h.mem_strays w).mp hw
    exact ⟨c, hstray.closer, hstray.cuts⟩
  · intro r hr
    obtain ⟨w, hw, rfl⟩ := List.mem_map.mp hr
    rw [h.dangling_eq] at hw
    split at hw
    · next hodd =>
      rw [List.mem_singleton.mp hw]
      exact (cuts_danglingEscape hodd).2
    · cases hw
  · intro r hr
    obtain ⟨w, hw, rfl⟩ := List.mem_map.mp hr
    exact hlast w hw
  · intro hnothing
    obtain ⟨hstrays, hunterminated⟩ :=
      h.eq_nil_of_nothing fun hnil => hnothing (List.map_eq_nil_iff.mpr hnil)
    exact ⟨List.map_eq_nil_iff.mpr hstrays, List.map_eq_nil_iff.mpr hunterminated⟩
  · rw [hreports]
    intro r hr
    obtain ⟨w, hw, rfl⟩ := List.mem_map.mp hr
    exact h.cuts w hw

/-- A stray behind a character of two bytes, a slot that only an escaped delimiter follows,
and an escape of nothing in it. -/
example : (read 0 "é)[a_]_").reports =
    [strayReport 0 ')' 2, danglingReport 0 8, openReport 0 ⟨3, 8⟩ .string] := by
  decide +kernel

end Specifier
end ReporterBlocks
