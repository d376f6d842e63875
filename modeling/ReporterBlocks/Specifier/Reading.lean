import ReporterBlocks.Log
import ReporterBlocks.Specifier.Warning
import ReporterBlocks.Text.Quoted

/-!
# Reading a specifier

`scan` cuts a text into chunks: label text up to an unescaped opening delimiter, then the name of
the slot up to the unescaped closing delimiter of its own kind, and so on. Each chunk keeps the text
with its escapes resolved and the characters as they were written, which give the spans and the
stray delimiters.
-/

namespace ReporterBlocks

/-- The number of bytes that characters are written in. -/
def byteLength : List Char → Nat
  | [] => 0
  | c :: cs => c.utf8Size + byteLength cs

/-- The text before the first unescaped character that ends it. -/
structure Chunk (β : Type) where
  /-- The text, escapes resolved. -/
  text : List Char
  /-- The characters as written, without the one that ended them. -/
  raw : List Char
  /-- The characters end in an escape of nothing. -/
  dangling : Bool
  /-- What ended the text and what follows, if the text ended before the characters did. -/
  next : Option (β × List Char)

namespace Chunk

variable {β : Type}

/-- One more character at the front, written as `raw`. -/
def cons (c : Char) (raw : List Char) (k : Chunk β) : Chunk β :=
  { k with text := c :: k.text, raw := raw ++ k.raw }

/-- Reads up to the first unescaped character that `stop` recognises. -/
def read (stop : Char → Option β) : List Char → Chunk β
  | [] => ⟨[], [], false, none⟩
  | c :: cs =>
    if c = escapeChar then
      match cs with
      | [] => ⟨[], [c], true, none⟩
      | d :: ds => (read stop ds).cons d [c, d]
    else
      match stop c with
      | some b => ⟨[], [], false, some (b, cs)⟩
      | none => (read stop cs).cons c [c]

/-- What is left to read is shorter. -/
theorem length_of_next {stop : Char → Option β} (cs : List Char) {b : β} {rest : List Char}
    (h : (read stop cs).next = some (b, rest)) : rest.length < cs.length := by
  fun_induction read stop cs with
  | case1 => simp at h
  | case2 => simp at h
  | case3 d ds ih =>
    have := ih h
    simp only [List.length_cons]
    omega
  | case4 c cs _ b' _ =>
    simp only [Option.some.injEq, Prod.mk.injEq] at h
    simp [h.2]
  | case5 c cs _ _ ih =>
    have := ih h
    simp only [List.length_cons]
    omega

/-- The warning about an escape of nothing; `stop` is where the chunk ends. -/
def escapeWarning (k : Chunk β) (stop : Nat) : List Warning :=
  if k.dangling then [.danglingEscape (stop - escapeChar.utf8Size)] else []

end Chunk

/-- The unescaped closing delimiters of label text that begins at `pos`. -/
def strayClosers (pos : Nat) : List Char → List Warning
  | [] => []
  | c :: cs =>
    if c = escapeChar then
      match cs with
      | [] => []
      | d :: ds => strayClosers (pos + c.utf8Size + d.utf8Size) ds
    else if isCloser c then .strayCloser c pos :: strayClosers (pos + c.utf8Size) cs
    else strayClosers (pos + c.utf8Size) cs

/-- Recognises the delimiter that closes a slot. -/
def SlotKind.closes (k : SlotKind) (c : Char) : Option Unit :=
  if c = k.closing then some () else none

/-- Label text as a fragment, unless there is none. -/
def labelFragment (text : List Char) (span : Span) : List Fragment :=
  if text = [] then [] else [⟨.label (String.ofList text), span⟩]

/-- The fragments of the characters from byte `pos` on, and the warnings about them. -/
def scan (pos : Nat) (cs : List Char) : List Fragment × List Warning :=
  let label := Chunk.read SlotKind.ofOpening? cs
  let start := pos + byteLength label.raw
  let fragments := labelFragment label.text ⟨pos, start⟩
  let warnings := strayClosers pos label.raw ++ label.escapeWarning start
  match _hlabel : label.next with
  | none => (fragments, warnings)
  | some (kind, body) =>
    let name := Chunk.read kind.closes body
    let stop := start + kind.opening.utf8Size + byteLength name.raw
    let slot := Piece.slot kind (String.ofList name.text)
    match _hname : name.next with
    | none =>
      (fragments ++ [⟨slot, ⟨start, stop⟩⟩],
        warnings ++ name.escapeWarning stop ++ [.unterminatedSlot kind ⟨start, stop⟩])
    | some (_, rest) =>
      let stop := stop + kind.closing.utf8Size
      let (fragments', warnings') := scan stop rest
      (fragments ++ ⟨slot, ⟨start, stop⟩⟩ :: fragments', warnings ++ warnings')
  termination_by cs.length
  decreasing_by
    have := Chunk.length_of_next _ _hlabel
    have := Chunk.length_of_next _ _hname
    omega

/-- What a specifier was read as. -/
structure Specifier where
  /-- The number that the text is known by. -/
  source : Nat
  fragments : List Fragment
  warnings : List Warning

namespace Specifier

/-- Reads a text. This never fails: what cannot be meant is warned about. -/
def read (source : Nat) (text : String) : Specifier :=
  let (fragments, warnings) := scan 0 text.toList
  { source := source
    fragments := fragments
    warnings := warnings ++ if fragments.isEmpty then [.nothing] else [] }

def pieces (s : Specifier) : List Piece := s.fragments.map Fragment.piece

def reports (s : Specifier) : List Report := s.warnings.map (Warning.report s.source)

/-- The lines that reading a text leaves, one for each warning. -/
def logLines (s : Specifier) (text : String) : List Log.Line :=
  s.warnings.map fun w =>
    ⟨.debug, .specifier, "specifier " ++ Text.quoted text ++ ": " ++ w.message⟩

end Specifier

end ReporterBlocks
