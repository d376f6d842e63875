import ReporterBlocks.Text.Ranges

/-!
# Sets of characters

A set is given by ranges of code points; the operations on sets work range by range.
-/

namespace ReporterBlocks

/-- The characters whose code points lie in one of the ranges, both ends included. -/
structure CharSet where
  ranges : List (Nat × Nat)
  deriving DecidableEq, Repr

namespace CharSet

def contains (s : CharSet) (c : Char) : Bool := Text.inRanges s.ranges c.toNat

def empty : CharSet := ⟨[]⟩

def between (first last : Char) : CharSet := ⟨[(first.toNat, last.toNat)]⟩

def single (c : Char) : CharSet := between c c

def isEmpty (s : CharSet) : Bool := s.ranges.isEmpty

def union (s t : CharSet) : CharSet := ⟨s.ranges ++ t.ranges⟩

/-- What is left of a range when another one is taken out: at most a piece below and a piece
above. -/
def cut (whole out : Nat × Nat) : List (Nat × Nat) :=
  if out.2 < whole.1 || whole.2 < out.1 then [whole]
  else
    (if whole.1 < out.1 then [(whole.1, out.1 - 1)] else []) ++
      (if out.2 < whole.2 then [(out.2 + 1, whole.2)] else [])

def without (s t : CharSet) : CharSet :=
  ⟨t.ranges.foldl (fun rs r => rs.flatMap fun whole => cut whole r) s.ranges⟩

def common (s t : CharSet) : CharSet := s.without (s.without t)

/-- The characters in one of the sets but not in both. -/
def oneOf (s t : CharSet) : CharSet := (s.without t).union (t.without s)

/-- The characters up to a code point that are not in the set. -/
def others (last : Nat) (s : CharSet) : CharSet := (⟨[(0, last)]⟩ : CharSet).without s

def isAscii (s : CharSet) : Bool := s.ranges.all fun r => r.2 ≤ 0x7f

def capitals : CharSet := between 'A' 'Z'

def smalls : CharSet := between 'a' 'z'

/-- Adds the other case of every ASCII letter. -/
def bothCases (s : CharSet) : CharSet :=
  let gap := 'a'.toNat - 'A'.toNat
  ⟨s.ranges ++ (s.common capitals).ranges.map (fun r => (r.1 + gap, r.2 + gap)) ++
    (s.common smalls).ranges.map fun r => (r.1 - gap, r.2 - gap)⟩

def digits : CharSet := between '0' '9'

def letters : CharSet := capitals.union smalls

/-- The letters, digits and underscores of ASCII. -/
def wordChars : CharSet := (letters.union digits).union (single '_')

def blanks : CharSet := (between '\t' '\r').union (single ' ')

end CharSet

end ReporterBlocks
