import Mathlib.Data.List.Chain
import ReporterBlocks.Proofs.Specifier.Standing

/-! # Fragments lie end to end

`Tiles pos cs fs rest` says that the fragments `fs` cover the characters `cs` from byte
`pos` on, one behind the other, up to `rest`, and that the characters of each, read by
themselves, give that fragment and no other.

The fragments of a text tile it, and nothing is left of it but an escape of nothing
behind a slot (`tiles_scan`); anywhere else such an escape belongs to the label or to the
slot that it stands in.  `fragments_tile` puts this down in bytes.
-/

namespace ReporterBlocks

/-- **Fragments that lie end to end**, each what its own characters are read as. -/
inductive Tiles : Nat → List Char → List Fragment → List Char → Prop
  | done (pos : Nat) (rest : List Char) : Tiles pos rest [] rest
  | fragment {slice : List Char} (hslice : slice ≠ []) {p : Piece}
      (halone : (scan 0 slice).1 = [⟨p, ⟨0, byteLength slice⟩⟩]) {pos : Nat}
      {cs rest : List Char} {fs : List Fragment}
      (h : Tiles (pos + byteLength slice) cs fs rest) :
      Tiles pos (slice ++ cs) (⟨p, ⟨pos, pos + byteLength slice⟩⟩ :: fs) rest

namespace Tiles
variable {pos : Nat} {cs rest : List Char} {fs : List Fragment}

theorem eq_of_nil (h : Tiles pos cs [] rest) : cs = rest := by
  cases h
  rfl

theorem start_head (h : Tiles pos cs fs rest) : ∀ f ∈ fs.head?, f.span.start = pos := by
  cases h with
  | done => exact fun f hf => by cases hf
  | fragment =>
    rintro f ⟨⟩
    rfl

theorem contiguous (h : Tiles pos cs fs rest) :
    fs.IsChain fun f g => g.span.start = f.span.stop := by
  induction h with
  | done => exact .nil
  | fragment _ _ h ih => exact List.isChain_cons.mpr ⟨h.start_head, ih⟩

/-- The last fragment ends where the rest begins. -/
theorem stop_getLast (h : Tiles pos cs fs rest) :
    ∀ f ∈ fs.getLast?, f.span.stop + byteLength rest = pos + byteLength cs := by
  induction h with
  | done => exact fun f hf => by cases hf
  | @fragment slice _ p _ pos cs rest fs h ih =>
    intro f hf
    rw [byteLength_append, ← Nat.add_assoc]
    cases fs with
    | nil =>
      cases hf
      rw [h.eq_of_nil]
      rfl
    | cons g gs => exact ih f (by rwa [List.getLast?_cons_cons] at hf)

/-- Every fragment is what its own characters are read as. -/
theorem exists_slice (h : Tiles pos cs fs rest) {f : Fragment} (hf : f ∈ fs) :
    ∃ front slice back, cs = front ++ slice ++ back ∧ slice ≠ [] ∧
      f.span = ⟨pos + byteLength front, pos + (byteLength front + byteLength slice)⟩ ∧
      (scan 0 slice).1 = [⟨f.piece, ⟨0, byteLength slice⟩⟩] := by
  induction h with
  | done => cases hf
  | @fragment slice hslice p halone pos cs rest fs _ ih =>
    rcases List.mem_cons.mp hf with rfl | hf
    · exact ⟨[], slice, cs, rfl, hslice, by simp, halone⟩
    · obtain ⟨front, slice', back, rfl, hslice', hspan, halone'⟩ := ih hf
      refine ⟨slice ++ front, slice', back, by simp, hslice', ?_, halone'⟩
      simp [hspan, Nat.add_assoc]

end Tiles

/-! ## Each form by itself -/

section Alone
variable {raw text body name : List Char} {dangling : Bool} {k : SlotKind}

theorem scan_nil (pos : Nat) : scan pos [] = ([], []) := scan_label pos .nil

theorem scan_alone_label (h : LabelSpells raw text dangling) (htext : text ≠ []) :
    (scan 0 raw).1 = [⟨.label (String.ofList text), ⟨0, byteLength raw⟩⟩] := by
  rw [scan_label 0 h, labelFragment, if_neg htext, Nat.zero_add]

theorem scan_alone_unclosed (hname : k.Spells body name dangling) :
    (scan 0 (k.opening :: body)).1 =
      [⟨.slot k (String.ofList name), ⟨0, byteLength (k.opening :: body)⟩⟩] := by
  have hscan := scan_unclosed 0 .nil hname
  rw [List.nil_append] at hscan
  simp [hscan, labelFragment]

theorem scan_alone_slot (hname : k.Spells body name false) :
    (scan 0 (k.enclose body)).1 =
      [⟨.slot k (String.ofList name), ⟨0, byteLength (k.enclose body)⟩⟩] := by
  have hscan := scan_slot 0 .nil hname []
  rw [List.nil_append] at hscan
  simp [SlotKind.enclose, hscan, scan_nil, labelFragment]

/-- A label tiles the characters that it is read from, unless they are all dropped. -/
theorem Tiles.labelFragment_append (h : LabelSpells raw text dangling)
    (hraw : text = [] → raw = []) {pos : Nat} {cs rest : List Char} {fs : List Fragment}
    (hrest : Tiles (pos + byteLength raw) cs fs rest) :
    Tiles pos (raw ++ cs) (labelFragment text ⟨pos, pos + byteLength raw⟩ ++ fs) rest := by
  rw [labelFragment]
  split
  · next htext =>
    rw [hraw htext] at hrest ⊢
    exact hrest
  · next htext => exact .fragment (h.raw_ne_nil htext) (scan_alone_label h htext) hrest

end Alone

/-- **The fragments of a text tile it** up to an escape of nothing that stands behind a
slot, or by itself. -/
theorem tiles_scan (pos : Nat) (cs : List Char) :
    ∃ rest, Tiles pos cs (scan pos cs).1 rest ∧ (rest = [] ∨ rest = [escapeChar]) ∧
      (rest = [escapeChar] ↔ standing cs = ⟨none, true⟩ ∧
        ∀ f ∈ (scan pos cs).1.getLast?, f.piece.kind?.isSome) := by
  induction layout cs generalizing pos with
  | @label raw text dangling h =>
    rw [scan_label pos h, standing_label h]
    by_cases htext : text = []
    · -- all there is is dropped
      subst htext
      refine ⟨raw, by simpa [labelFragment] using Tiles.done pos raw, ?_⟩
      cases dangling <;> simp [h.eq_of_text_nil, labelFragment]
    · refine ⟨[], ?_, Or.inl rfl, ?_⟩
      · have htiles := Tiles.labelFragment_append h (absurd · htext)
          (Tiles.done (pos + byteLength raw) [])
        simpa using htiles
      · simp [labelFragment, htext, Piece.kind?]
  | @unclosed raw text h k body name dangling hname =>
    rw [scan_unclosed pos h hname, standing_unclosed h hname]
    refine ⟨[], ?_, Or.inl rfl, by simp⟩
    have hslot := Tiles.fragment (List.cons_ne_nil k.opening body) (scan_alone_unclosed hname)
      (Tiles.done (pos + byteLength raw + byteLength (k.opening :: body)) [])
    rw [List.append_nil] at hslot
    exact Tiles.labelFragment_append h (fun htext => (htext ▸ h).eq_of_text_nil) hslot
  | @slot raw text h k body name hname rest' _ ih =>
    rw [scan_slot pos h hname, standing_slot h hname]
    obtain ⟨rest, htiles, hrest, hdropped⟩ :=
      ih (pos + byteLength raw + byteLength (k.enclose body))
    refine ⟨rest, ?_, hrest, hdropped.trans (and_congr_right fun _ => ?_)⟩
    · have hslot := Tiles.fragment (List.cons_ne_nil k.opening (body ++ [k.closing]))
        (scan_alone_slot hname) htiles
      have hsplit : k.opening :: (body ++ k.closing :: rest') = k.enclose body ++ rest' := by
        simp [SlotKind.enclose]
      rw [hsplit]
      exact Tiles.labelFragment_append h (fun htext => (htext ▸ h).eq_of_text_nil) hslot
    · -- the last fragment is the slot if nothing follows it
      cases (scan (pos + byteLength raw + byteLength (k.enclose body)) rest').1 <;>
        simp [Piece.kind?]

namespace Specifier

/-- **The fragments of a specifier tile it**, and each is determined by its own slice.
There are some unless nothing, or an escape of nothing, was written.  The first begins
with the text and each of the others where the one before it ends; none is empty and all
begin and end between characters.  The last ends with the text, or one byte before it
exactly if an escape of nothing stands behind a slot.  What is read from the slice of a
fragment is that fragment alone. -/
theorem fragments_tile (source : Nat) (text : String) (hempty : text ≠ "")
    (hescape : text ≠ "_") :
    let fragments := (read source text).fragments
    fragments ≠ [] ∧
    (∀ f ∈ fragments.head?, f.span.start = 0) ∧
    (fragments.IsChain fun f g => g.span.start = f.span.stop) ∧
    (∀ f ∈ fragments, f.span.start < f.span.stop ∧ ∃ slice, f.span.Cuts text slice ∧
      (read source slice).fragments = [⟨f.piece, ⟨0, slice.utf8ByteSize⟩⟩]) ∧
    ∀ f ∈ fragments.getLast?,
      (f.span.stop = text.utf8ByteSize ∨ f.span.stop + 1 = text.utf8ByteSize) ∧
      (f.span.stop + 1 = text.utf8ByteSize ↔ Odd (escapeRun text.toList) ∧
        f.piece.kind?.isSome ∧ (standing text.toList).slot? = none) := by
  intro fragments
  obtain ⟨rest, htiles, hrest, hdropped⟩ := tiles_scan 0 text.toList
  have hscan : (scan 0 text.toList).1 = fragments := rfl
  rw [hscan] at htiles hdropped
  refine ⟨?_, htiles.start_head, htiles.contiguous, ?_, ?_⟩
  · intro hnone
    rcases (scan_eq_nil_iff 0 text.toList).mp hnone with h | h
    · exact hempty (String.toList_eq_nil_iff.mp h)
    · exact hescape (String.toList_injective h)
  · intro f hf
    obtain ⟨front, slice, back, hsplit, hslice, hspan, halone⟩ := htiles.exists_slice hf
    rw [Nat.zero_add, Nat.zero_add] at hspan
    refine ⟨?_, String.ofList slice, hspan ▸ Span.cuts_of_append hsplit, ?_⟩
    · have hpos := byteLength_pos hslice
      rw [hspan]
      exact Nat.lt_add_of_pos_right hpos
    · rw [utf8ByteSize_ofList, ← halone, read, String.toList_ofList]
  · intro f hf
    have hstop := htiles.stop_getLast f hf
    rw [Nat.zero_add, byteLength_toList] at hstop
    have hone : byteLength [escapeChar] = 1 := rfl
    have hlast : (∀ g ∈ fragments.getLast?, g.piece.kind?.isSome) ↔ f.piece.kind?.isSome := by
      rw [Option.mem_def.mp hf]
      simp
    rw [hlast, standing_eq_escaped_iff, and_right_comm, and_assoc] at hdropped
    rw [← hdropped]
    rcases hrest with rfl | rfl
    · rw [byteLength_nil, Nat.add_zero] at hstop
      exact ⟨Or.inl hstop, by simp [hstop]⟩
    · rw [hone] at hstop
      exact ⟨Or.inr hstop, by simp [hstop]⟩

/-- A label of two bytes, a slot whose name holds its own closing delimiter, and an escape
of nothing behind it. -/
theorem fragments_tile_dropped_escape :
    let text := "é[a_]]_"
    let f : Fragment := ⟨.slot .string "a]", ⟨2, 7⟩⟩
    text ≠ "" ∧ text ≠ "_" ∧ (read 0 text).fragments.getLast? = some f ∧
      f.span.stop + 1 = text.utf8ByteSize ∧ ∃ slice, f.span.Cuts text slice ∧
        (read 0 slice).fragments = [⟨f.piece, ⟨0, slice.utf8ByteSize⟩⟩] := by
  intro text f
  have hfragments : (read 0 text).fragments = [⟨.label "é", ⟨0, 2⟩⟩, f] := by decide +kernel
  obtain ⟨-, -, -, hslices, hlast⟩ := fragments_tile 0 text (by decide) (by decide)
  have hf : f ∈ (read 0 text).fragments.getLast? := by rw [hfragments]; rfl
  refine ⟨by decide, by decide, hf, ?_, (hslices f (List.mem_of_getLast? hf)).2⟩
  exact (hlast f hf).2.mpr ⟨by decide, rfl, by decide⟩

end Specifier
end ReporterBlocks
