import ReporterBlocks.Proofs.Specifier.Anomaly

/-! # Specifiers one behind the other

Text that stands behind a place outside every slot is read as if it stood by itself.  All
that the characters in front decide is where it begins, so that it is read with its spans
moved (`scan_shift`), and whether a label is open there, which a label at the start of
the text goes on with (`joinFragments`).  Hence the law of `scan_append`: what is read
from characters that end outside every slot, followed by others, is what is read from
each.

The one exception is an escape of nothing: behind a label it belongs to the label, and by
itself it is read as nothing.

`read_append` puts the law down for specifiers, by the warnings about the first.  It needs
none of this for the fragments up to a slot that is closed: they stay what they are
whatever is written behind them (`prefix_scan_append`).
-/

namespace ReporterBlocks

/-! ## Moved spans -/

/-- The span of the same text behind `n` bytes. -/
def Span.shift (n : Nat) (span : Span) : Span := ⟨n + span.start, n + span.stop⟩

def Fragment.shift (n : Nat) (f : Fragment) : Fragment := { f with span := f.span.shift n }

def Report.shift (n : Nat) (r : Report) : Report := { r with span := r.span.shift n }

def Warning.shift (n : Nat) : Warning → Warning
  | strayCloser c pos => strayCloser c (n + pos)
  | danglingEscape pos => danglingEscape (n + pos)
  | unterminatedSlot k span => unterminatedSlot k (span.shift n)
  | nothing => nothing

theorem Warning.report_shift {w : Warning} (hw : w ≠ nothing) (source n : Nat) :
    (w.shift n).report source = (w.report source).shift n := by
  cases w with
  | nothing => exact absurd rfl hw
  | unterminatedSlot => rfl
  | strayCloser | danglingEscape =>
    simp [Warning.shift, Warning.report, Report.shift, Span.shift, Warning.span, Warning.message,
      Warning.advice?, Nat.add_assoc]

theorem labelFragment_shift (n : Nat) (text : List Char) (span : Span) :
    labelFragment text (span.shift n) = (labelFragment text span).map (Fragment.shift n) := by
  unfold labelFragment
  split <;> rfl

theorem straysFrom_shift (n pos : Nat) (s : Standing) (cs : List Char) :
    straysFrom s (n + pos) cs = (straysFrom s pos cs).map (Warning.shift n) := by
  induction cs generalizing s pos with
  | nil => rfl
  | cons c cs ih =>
    rw [straysFrom, straysFrom, List.map_append, Nat.add_assoc, ih]
    split <;> rfl

theorem danglingWarning_shift (n : Nat) {dangling : Bool} {stop : Nat}
    (hstop : dangling = true → escapeChar.utf8Size ≤ stop) :
    danglingWarning dangling (n + stop) =
      (danglingWarning dangling stop).map (Warning.shift n) := by
  cases dangling with
  | false => rfl
  | true => simp [danglingWarning, Warning.shift, Nat.add_sub_assoc (hstop rfl)]

/-- An escape of nothing is written somewhere. -/
theorem Spells.size_le {β : Type} {stop : Char → Option β} {raw text : List Char}
    {dangling : Bool} (h : Spells stop raw text dangling) (hdangling : dangling = true) :
    escapeChar.utf8Size ≤ byteLength raw := by
  induction h with
  | nil => cases hdangling
  | dangling => exact Nat.le_add_right _ _
  | escaped c _ ih | plain c _ _ _ ih =>
    have := ih hdangling
    simp only [byteLength_cons]
    omega

theorem strayClosers_shift (n pos : Nat) {raw text : List Char} {dangling : Bool}
    (h : LabelSpells raw text dangling) :
    strayClosers (n + pos) raw = (strayClosers pos raw).map (Warning.shift n) := by
  rw [← straysFrom_label _ h, ← straysFrom_label _ h, straysFrom_shift]

/-- **What is read behind `n` bytes is what is read at the start**, with its spans moved. -/
theorem scan_shift (n pos : Nat) (cs : List Char) :
    scan (n + pos) cs =
      ((scan pos cs).1.map (Fragment.shift n), (scan pos cs).2.map (Warning.shift n)) := by
  induction layout cs generalizing pos with
  | @label raw text dangling h =>
    have hdangling : danglingWarning dangling (n + (pos + byteLength raw)) =
        (danglingWarning dangling (pos + byteLength raw)).map (Warning.shift n) :=
      danglingWarning_shift n fun hd => Nat.le_add_left_of_le (h.size_le hd)
    rw [scan_label _ h, scan_label _ h, strayClosers_shift n pos h, List.map_append,
      ← labelFragment_shift, ← hdangling, Span.shift, Nat.add_assoc]
  | @unclosed raw text h k body name dangling hname =>
    -- the escape of nothing stands in the name of the slot
    let stop := pos + byteLength raw + byteLength (k.opening :: body)
    have hdangling : danglingWarning dangling (n + stop) =
        (danglingWarning dangling stop).map (Warning.shift n) := by
      refine danglingWarning_shift n fun hd => Nat.le_add_left_of_le ?_
      exact Nat.le_add_left_of_le (hname.size_le hd)
    rw [scan_unclosed _ h hname, scan_unclosed _ h hname, strayClosers_shift n pos h]
    simp only [List.map_append, ← labelFragment_shift, ← hdangling, stop]
    simp [Span.shift, Fragment.shift, Warning.shift, Nat.add_assoc]
  | @slot raw text h k body name hname rest _ ih =>
    have hrest := ih (pos + byteLength raw + byteLength (k.enclose body))
    rw [scan_slot _ h hname, scan_slot _ h hname, strayClosers_shift n pos h]
    simp only [Nat.add_assoc] at hrest ⊢
    rw [hrest]
    simp [← labelFragment_shift, Span.shift, Fragment.shift]

/-! ## Labels that meet -/

/-- The fragments of two texts, the second behind the first.  A label at the end of the
first and one at the start of the second are one label. -/
def joinFragments (fs gs : List Fragment) : List Fragment :=
  match fs.getLast?, gs with
  | some ⟨.label a, x⟩, ⟨.label b, y⟩ :: gs =>
    fs.dropLast ++ ⟨.label (a ++ b), ⟨x.start, y.stop⟩⟩ :: gs
  | _, gs => fs ++ gs

theorem joinFragments_nil (gs : List Fragment) : joinFragments [] gs = gs := rfl

theorem joinFragments_concat (fs : List Fragment) (f : Fragment) (gs : List Fragment) :
    joinFragments (fs ++ [f]) gs = fs ++ joinFragments [f] gs := by
  obtain ⟨p, span⟩ := f
  cases p with
  | slot => simp [joinFragments]
  | label =>
    rcases gs with _ | ⟨⟨_ | _, span'⟩, gs⟩ <;> simp [joinFragments]

/-- What meets behind a slot meets without it. -/
theorem joinFragments_append_slot (fs : List Fragment) (k : SlotKind) (name : String)
    (span : Span) (gs hs : List Fragment) :
    joinFragments (fs ++ ⟨.slot k name, span⟩ :: gs) hs =
      fs ++ ⟨.slot k name, span⟩ :: joinFragments gs hs := by
  cases gs using List.reverseRecOn with
  | nil => rw [joinFragments_concat, joinFragments_nil]; rfl
  | append_singleton gs g =>
    rw [← List.cons_append, ← List.append_assoc, joinFragments_concat, joinFragments_concat,
      List.append_assoc, List.cons_append]

theorem joinFragments_labelFragment {text text' : List Char} {start mid stop : Nat}
    (htext : text = [] → mid = start) (htext' : text' = [] → stop = mid) (fs : List Fragment)
    (hfs : ∀ f ∈ fs.head?, f.piece.kind?.isSome) :
    joinFragments (labelFragment text ⟨start, mid⟩) (labelFragment text' ⟨mid, stop⟩ ++ fs) =
      labelFragment (text ++ text') ⟨start, stop⟩ ++ fs := by
  by_cases h : text = []
  · -- the label that goes on behind nothing begins where nothing stands
    obtain rfl := htext h
    subst h
    rfl
  · by_cases h' : text' = []
    · -- the label meets what stands behind the empty one, which is a slot if anything
      obtain rfl := htext' h'
      subst h'
      rcases fs with _ | ⟨⟨_ | _, span⟩, fs⟩
      · simp [joinFragments, labelFragment]
      · exact absurd (hfs _ rfl) (by simp [Piece.kind?])
      · simp [joinFragments, labelFragment, h]
    · simp [joinFragments, labelFragment, h, h']

/-! ## Text behind text -/

section Append
variable {raw text : List Char} (pos : Nat)

theorem strayClosers_append (h : LabelSpells raw text false) {raw' text' : List Char}
    {dangling : Bool} (h' : LabelSpells raw' text' dangling) :
    strayClosers pos (raw ++ raw') =
      strayClosers pos raw ++ strayClosers (pos + byteLength raw) raw' := by
  have hraw : Standing.outside.after raw = .outside := standing_label h
  rw [← straysFrom_label pos (h.append h'), straysFrom_append, straysFrom_label pos h, hraw,
    straysFrom_label _ h']

/-- A label goes on with the label that the text behind it begins with. -/
theorem scan_label_append (h : LabelSpells raw text false) {ds : List Char}
    (hds : ds ≠ [escapeChar]) :
    scan pos (raw ++ ds) =
      (joinFragments (labelFragment text ⟨pos, pos + byteLength raw⟩)
          (scan (pos + byteLength raw) ds).1,
        strayClosers pos raw ++ (scan (pos + byteLength raw) ds).2) := by
  have htext : text = [] → pos + byteLength raw = pos := by
    rintro rfl
    rw [h.eq_of_text_nil]
    rfl
  have hempty {raw' text' : List Char} (h' : LabelSpells raw' text' false) :
      text' = [] → pos + byteLength raw + byteLength raw' = pos + byteLength raw := by
    rintro rfl
    rw [h'.eq_of_text_nil]
    rfl
  cases layout ds with
  | @label _ text' dangling h' =>
    have htext' : text' = [] → pos + byteLength raw + byteLength ds = pos + byteLength raw := by
      rintro rfl
      cases dangling with
      | false => exact hempty h' rfl
      | true => exact absurd h'.eq_of_text_nil hds
    have hjoin := joinFragments_labelFragment htext htext' [] (by simp)
    rw [scan_label _ (h.append h'), scan_label _ h', strayClosers_append pos h h']
    simp_all [Nat.add_assoc]
  | @unclosed raw' text' h' k body name dangling hname =>
    rw [← List.append_assoc, scan_unclosed _ (h.append h') hname, scan_unclosed _ h' hname,
      strayClosers_append pos h h',
      joinFragments_labelFragment htext (hempty h') _ (by simp [Piece.kind?])]
    simp [Nat.add_assoc]
  | @slot raw' text' h' k body name hname rest =>
    rw [← List.append_assoc, scan_slot _ (h.append h') hname, scan_slot _ h' hname,
      strayClosers_append pos h h',
      joinFragments_labelFragment htext (hempty h') _ (by simp [Piece.kind?])]
    simp [Nat.add_assoc]

/-- **Reading is compositional.**  What characters that end outside every slot are read as
is followed by what those behind them are read as. -/
theorem scan_append {cs : List Char} (hcs : standing cs = .outside) {ds : List Char}
    (hds : ds ≠ [escapeChar]) :
    scan pos (cs ++ ds) =
      (joinFragments (scan pos cs).1 (scan (pos + byteLength cs) ds).1,
        (scan pos cs).2 ++ (scan (pos + byteLength cs) ds).2) := by
  induction layout cs generalizing pos with
  | @label raw text dangling h =>
    -- the place behind a label is outside every slot only if nothing is left to escape
    obtain rfl : dangling = false := congrArg Standing.escaped ((standing_label h).symm.trans hcs)
    rw [scan_label_append pos h hds, scan_label pos h]
    simp [danglingWarning]
  | unclosed h k hname =>
    cases congrArg Standing.slot? ((standing_unclosed h hname).symm.trans hcs)
  | @slot raw text h k body name hname rest _ ih =>
    -- the texts meet behind the slot, where the place is that of the rest by itself
    have hrest := ih (pos + byteLength raw + byteLength (k.enclose body))
      ((standing_slot h hname).symm.trans hcs)
    have hsplit : raw ++ k.opening :: (body ++ k.closing :: rest) ++ ds =
        raw ++ k.opening :: (body ++ k.closing :: (rest ++ ds)) := by simp
    have hlength : pos + byteLength (raw ++ k.opening :: (body ++ k.closing :: rest)) =
        pos + byteLength raw + byteLength (k.enclose body) + byteLength rest := by
      simp [SlotKind.enclose, Nat.add_assoc]
    rw [hsplit, hlength, scan_slot pos h hname, scan_slot pos h hname, hrest,
      joinFragments_append_slot, List.append_assoc]

end Append

/-! ## Fragments that stay -/

theorem kind?_of_mem_labelFragment {text : List Char} {span : Span} {f : Fragment}
    (hf : f ∈ labelFragment text span) : f.piece.kind? = none := by
  unfold labelFragment at hf
  split at hf
  · cases hf
  · rw [List.mem_singleton.mp hf]
    rfl

/-- A member that is not among the first ones is the one behind them or comes later. -/
theorem eq_or_later_of_append_eq {α : Type} {front rest fs gs : List α} {a f : α}
    (h : fs ++ f :: gs = front ++ a :: rest) (hf : f ∉ front) :
    (fs = front ∧ f = a) ∨ ∃ later, fs = front ++ a :: later ∧ rest = later ++ f :: gs := by
  rcases List.append_eq_append_iff.mp h with ⟨mid, rfl, hmid⟩ | ⟨mid, rfl, hmid⟩
  · cases mid with
    | nil => exact Or.inl ⟨(List.append_nil fs).symm, (List.cons.inj hmid).1⟩
    | cons b mid =>
      obtain ⟨rfl, -⟩ := List.cons.inj hmid
      exact absurd (List.mem_append_right fs List.mem_cons_self) hf
  · cases mid with
    | nil => exact Or.inl ⟨List.append_nil front, (List.cons.inj hmid).1.symm⟩
    | cons b later =>
      obtain ⟨rfl, hrest⟩ := List.cons.inj hmid
      exact Or.inr ⟨later, rfl, hrest⟩

/-- **The fragments up to a slot that is closed stay** whatever text follows. -/
theorem prefix_scan_append (pos : Nat) (cs ds : List Char) {fs gs : List Fragment} {f : Fragment}
    (hsplit : (scan pos cs).1 = fs ++ f :: gs) (hslot : f.piece.kind?.isSome)
    (hclosed : ∀ k, .unterminatedSlot k f.span ∉ (scan pos cs).2) :
    fs ++ [f] <+: (scan pos (cs ++ ds)).1 := by
  have hlabel {text : List Char} {span : Span} : f ∉ labelFragment text span := by
    intro hf
    rw [kind?_of_mem_labelFragment hf] at hslot
    cases hslot
  induction layout cs generalizing pos fs with
  | label h =>
    rw [scan_label pos h] at hsplit
    exact absurd (hsplit.symm ▸ List.mem_append_right fs List.mem_cons_self) hlabel
  | unclosed h k hname =>
    rw [scan_unclosed pos h hname] at hsplit hclosed
    rcases eq_or_later_of_append_eq hsplit.symm hlabel with ⟨-, rfl⟩ | ⟨later, -, hnil⟩
    · -- the slot at hand is open, which is warned about
      exact absurd (List.mem_append_right _ (List.mem_singleton_self _)) (hclosed k)
    · simp at hnil
  | @slot raw text h k body name hname rest _ ih =>
    have hassoc : raw ++ k.opening :: (body ++ k.closing :: rest) ++ ds =
        raw ++ k.opening :: (body ++ k.closing :: (rest ++ ds)) := by simp
    rw [scan_slot pos h hname] at hsplit hclosed
    rw [hassoc, scan_slot pos h hname]
    rcases eq_or_later_of_append_eq hsplit.symm hlabel with ⟨rfl, rfl⟩ | ⟨later, rfl, hrest⟩
    · -- the slot at hand is the one
      exact ⟨_, List.append_assoc _ [_] _⟩
    · -- the one is among what is read behind it
      have hlater := ih _ hrest fun k' hk' => hclosed k' (List.mem_append_right _ hk')
      rw [List.append_assoc, List.cons_append]
      exact (List.prefix_append_right_inj _).mpr (List.cons_prefix_cons.mpr ⟨rfl, hlater⟩)

/-! ## Specifiers -/

/-- Where neither an open slot nor an escape of nothing is warned about, no slot is open
at the end and the next character is not escaped. -/
theorem standing_eq_outside {pos : Nat} {cs : List Char}
    (hslot : ∀ k span, .unterminatedSlot k span ∉ (scan pos cs).2)
    (hescape : ∀ p, .danglingEscape p ∉ (scan pos cs).2) : standing cs = .outside := by
  obtain ⟨unterminated, hunterminated, hwarnings⟩ := scan_warnings pos cs
  rw [hwarnings] at hslot hescape
  have hclosed : (standing cs).slot? = none := by
    cases hunterminated with
    | closed hclosed => exact hclosed
    | leftOpen =>
      exact absurd (List.mem_append_right _ (List.mem_singleton_self _)) (hslot _ _)
  have hfree : (standing cs).escaped = false := by
    by_contra hdangling
    rw [Bool.not_eq_false] at hdangling
    rw [hdangling, danglingWarning, if_pos rfl] at hescape
    exact hescape _ (List.mem_append_left _ (List.mem_append_right _ List.mem_cons_self))
  calc standing cs = ⟨(standing cs).slot?, (standing cs).escaped⟩ := rfl
    _ = .outside := by rw [hclosed, hfree]; rfl

theorem nothing_not_mem_scan (pos : Nat) (cs : List Char) : .nothing ∉ (scan pos cs).2 := by
  obtain ⟨unterminated, hunterminated, hwarnings⟩ := scan_warnings pos cs
  rw [hwarnings, List.mem_append, List.mem_append]
  rintro ((hstray | hdangling) | hslot)
  · obtain ⟨_, _, _, _, _, _, hw⟩ := mem_straysFrom.mp hstray
    cases hw
  · unfold danglingWarning at hdangling
    split at hdangling <;> simp at hdangling
  · obtain ⟨_, _, _, _, hw⟩ := (hunterminated.mem_iff _).mp hslot
    cases hw

namespace Specifier

/-- What is reported about a specifier, but that nothing was written. -/
def remarks (s : Specifier) : List Report :=
  (s.warnings.filter (· ≠ .nothing)).map (Warning.report s.source)

theorem remarks_read (source : Nat) (text : String) :
    (read source text).remarks = (scan 0 text.toList).2.map (Warning.report source) := by
  have hscan : (scan 0 text.toList).2.filter (· ≠ .nothing) = (scan 0 text.toList).2 := by
    refine List.filter_eq_self.mpr fun w hw => decide_eq_true ?_
    rintro rfl
    exact nothing_not_mem_scan 0 text.toList hw
  have hnothing (b : Bool) :
      (if b then [Warning.nothing] else []).filter (· ≠ Warning.nothing) = [] := by
    cases b <;> rfl
  simp only [remarks, read, List.filter_append, hscan, hnothing, List.append_nil]

/-- **Specifiers one behind the other are read one by one.**  If neither an open slot nor
an escape of nothing is warned about in the first, and the second is not such an escape by
itself, then the fragments are those of the first followed by those of the second, moved
behind it, where two labels that meet are one; and so are the reports, but for the one that
nothing was written.  The fragments up to a slot that is closed stay with any text behind
them, also where the first specifier goes on with an open slot or ends in an escape of
nothing. -/
theorem read_append (source : Nat) (s t : String) :
    let first : Specifier := read source s
    let second : Specifier := read source t
    let both : Specifier := read source (s ++ t)
    ((∀ k span, .unterminatedSlot k span ∉ first.warnings) →
      (∀ pos, .danglingEscape pos ∉ first.warnings) → t ≠ "_" →
      both.fragments = joinFragments first.fragments
        (second.fragments.map (Fragment.shift s.utf8ByteSize)) ∧
      both.remarks = first.remarks ++ second.remarks.map (Report.shift s.utf8ByteSize)) ∧
    ∀ fs f gs, first.fragments = fs ++ f :: gs → f.piece.kind?.isSome →
      (∀ k, .unterminatedSlot k f.span ∉ first.warnings) → fs ++ [f] <+: both.fragments := by
  intro first second both
  have hmem {w : Warning} (hw : w ∈ (scan 0 s.toList).2) : w ∈ first.warnings :=
    List.mem_append_left _ hw
  have hboth : both.fragments = (scan 0 (s.toList ++ t.toList)).1 := by
    rw [← String.toList_append]
    rfl
  refine ⟨?_, ?_⟩
  · intro hslot hescape ht
    have hend : standing s.toList = .outside :=
      standing_eq_outside (fun k span hw => hslot k span (hmem hw))
        (fun pos hw => hescape pos (hmem hw))
    have hscan := scan_append 0 hend fun h => ht (String.toList_injective h)
    have hshift := scan_shift s.utf8ByteSize 0 t.toList
    rw [byteLength_toList, Nat.zero_add] at hscan
    rw [Nat.add_zero] at hshift
    rw [hboth, remarks_read, remarks_read, remarks_read, String.toList_append, hscan, hshift]
    refine ⟨rfl, ?_⟩
    rw [List.map_append, List.map_map, List.map_map]
    refine congrArg (_ ++ ·) (List.map_congr_left ?_)
    intro w hw
    refine Warning.report_shift ?_ source s.utf8ByteSize
    rintro rfl
    exact nothing_not_mem_scan 0 t.toList hw
  · intro fs f gs hsplit hkind hclosed
    rw [hboth]
    exact prefix_scan_append 0 s.toList t.toList hsplit hkind fun k hw => hclosed k (hmem hw)

/-- A label goes on behind a label, its escape included, and a slot is left open behind
it; the slot in front stays. -/
theorem read_append_labels :
    let s := "a [x] b)"
    let t := "_[c <y"
    (read 7 (s ++ t)).fragments = [⟨.label "a ", ⟨0, 2⟩⟩, ⟨.slot .string "x", ⟨2, 5⟩⟩,
        ⟨.label " b)[c ", ⟨5, 12⟩⟩, ⟨.slot .boolean "y", ⟨12, 14⟩⟩] ∧
      (read 7 (s ++ t)).remarks = (read 7 s).remarks ++
        (read 7 t).remarks.map (Report.shift 8) ∧
      [⟨.label "a ", ⟨0, 2⟩⟩, ⟨.slot .string "x", ⟨2, 5⟩⟩] <+: (read 7 (s ++ t)).fragments := by
  intro s t
  have hwarnings : (read 7 s).warnings = [.strayCloser ')' 7] := by decide +kernel
  have hfragments : (read 7 s).fragments = [⟨.label "a ", ⟨0, 2⟩⟩,
      ⟨.slot .string "x", ⟨2, 5⟩⟩, ⟨.label " b)", ⟨5, 8⟩⟩] := by decide +kernel
  have hsecond : (read 7 t).fragments = [⟨.label "[c ", ⟨0, 4⟩⟩,
      ⟨.slot .boolean "y", ⟨4, 6⟩⟩] := by decide +kernel
  obtain ⟨hjoin, hstay⟩ := read_append 7 s t
  obtain ⟨hread, hremarks⟩ := hjoin (by simp [hwarnings]) (by simp [hwarnings]) (by decide)
  refine ⟨?_, hremarks, hstay [_] _ [_] hfragments rfl (by simp [hwarnings])⟩
  rw [hread, hfragments, hsecond]
  decide +kernel

end Specifier
end ReporterBlocks
