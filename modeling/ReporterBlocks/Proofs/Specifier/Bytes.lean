import ReporterBlocks.Specifier.Reading

/-! # Bytes of a text

Spans count bytes, while a specifier is read character by character.  A span `Cuts` a
slice out of a text if it begins and ends between characters and the slice stands there;
spans that are counted over characters do so (`cuts_of_append`).
-/

namespace ReporterBlocks

@[simp] theorem byteLength_nil : byteLength [] = 0 := rfl

@[simp] theorem byteLength_cons (c : Char) (cs : List Char) :
    byteLength (c :: cs) = c.utf8Size + byteLength cs := rfl

@[simp] theorem byteLength_append (cs ds : List Char) :
    byteLength (cs ++ ds) = byteLength cs + byteLength ds := by
  induction cs with
  | nil => rw [List.nil_append, byteLength_nil, Nat.zero_add]
  | cons c cs ih => rw [List.cons_append, byteLength_cons, byteLength_cons, ih, Nat.add_assoc]

theorem byteLength_pos {cs : List Char} (hcs : cs ≠ []) : 0 < byteLength cs := by
  cases cs with
  | nil => exact absurd rfl hcs
  | cons c cs => exact Nat.add_pos_left c.utf8Size_pos _

theorem utf8ByteSize_ofList (cs : List Char) :
    (String.ofList cs).utf8ByteSize = byteLength cs := by
  induction cs with
  | nil => rfl
  | cons c cs ih => simpa using ih

theorem byteLength_toList (text : String) : byteLength text.toList = text.utf8ByteSize := by
  rw [← utf8ByteSize_ofList, String.ofList_toList]

/-- **A span cuts a slice out of a text**: its ends are places between characters, and the
slice stands between them. -/
def Span.Cuts (span : Span) (text slice : String) : Prop :=
  ∃ p q : text.Pos, p ≤ q ∧ span = ⟨p.offset.byteIdx, q.offset.byteIdx⟩ ∧
    text.extract p q = slice

theorem Span.cuts_of_append {text : String} {front slice back : List Char}
    (h : text.toList = front ++ slice ++ back) :
    Span.Cuts ⟨byteLength front, byteLength front + byteLength slice⟩ text
      (String.ofList slice) := by
  have hend : text = (String.ofList front ++ String.ofList slice) ++ String.ofList back := by
    rw [← String.ofList_append, ← String.ofList_append, ← h, String.ofList_toList]
  have hstart : text = String.ofList front ++ (String.ofList slice ++ String.ofList back) := by
    rw [← String.append_assoc]
    exact hend
  let p : text.Pos := ⟨(String.ofList front).rawEndPos,
    String.Pos.Raw.isValid_iff_exists_append.mpr ⟨_, _, hstart, rfl⟩⟩
  let q : text.Pos := ⟨(String.ofList front ++ String.ofList slice).rawEndPos,
    String.Pos.Raw.isValid_iff_exists_append.mpr ⟨_, _, hend, rfl⟩⟩
  have hp : p.Splits (String.ofList front) (String.ofList slice ++ String.ofList back) :=
    ⟨hstart, rfl⟩
  have hq : q.Splits (String.ofList front ++ String.ofList slice) (String.ofList back) :=
    ⟨hend, rfl⟩
  obtain ⟨hle, hslice⟩ := String.copy_slice_eq_iff_splits.mpr ⟨_, _, hp, hq⟩
  have hpoffset : p.offset.byteIdx = byteLength front := utf8ByteSize_ofList front
  have hqoffset : q.offset.byteIdx = byteLength front + byteLength slice := by
    rw [← utf8ByteSize_ofList front, ← utf8ByteSize_ofList slice, ← String.utf8ByteSize_append]
    rfl
  refine ⟨p, q, hle, ?_, (String.extract_eq_copy_slice p q hle).trans hslice⟩
  rw [hpoffset, hqoffset]

end ReporterBlocks
