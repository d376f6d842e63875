import ReporterBlocks.Pattern.Reading

/-!
# The meaning of written patterns

Flags decide what a part means. There are no tables of letters of every script, so what needs one
is refused: kinds of characters, properties, and letters in either case. Where characters are taken
as bytes, these are ASCII, and a part that could stand for other bytes is refused.
-/

namespace ReporterBlocks.Pattern

structure Flags where
  caseless : Bool
  manyLines : Bool
  dotAll : Bool
  crlf : Bool
  /-- Whether characters are meant, and not bytes. -/
  characters : Bool
  deriving DecidableEq, Repr

namespace Flags

def initial : Flags := ⟨false, false, false, false, true⟩

def apply (f : Flags) (changes : FlagChanges) : Flags where
  caseless := (changes.find? .caseless).getD f.caseless
  manyLines := (changes.find? .manyLines).getD f.manyLines
  dotAll := (changes.find? .dotAll).getD f.dotAll
  crlf := (changes.find? .crlf).getD f.crlf
  characters := (changes.find? .characters).getD f.characters

end Flags

def failAt {α : Type} (p : Problem) (s : Span) : Except Fault α := fail p s.first s.last

/-- The greatest code point. -/
def lastCode : Nat := 0x10ffff

def lastByte : Nat := 0xff

/-! ## Sets -/

/-- A set in which case counts or not, and what it leaves out in its place if it is negated. -/
def Flags.close (f : Flags) (span : Span) (negated : Bool) (s : CharSet) :
    Except Fault CharSet :=
  if f.characters then
    if f.caseless && !s.isEmpty then failAt .noCases span
    else .ok (if negated then s.others lastCode else s)
  else
    let s := if f.caseless then s.bothCases else s
    let s := if negated then s.others lastByte else s
    if s.isAscii then .ok s else failAt .noText span

/-- A character as a member of a set. -/
def Flags.member (f : Flags) (l : Letter) : Except Fault Char :=
  if f.characters || l.char ≤ '\x7f' then .ok l.char
  else if l.asByte then failAt .noText l.span
  else failAt .bytesOnly l.span

/-- Digits, blanks or the characters of words. -/
def Flags.kind (f : Flags) (span : Span) (ascii : CharSet) (negated : Bool) :
    Except Fault CharSet :=
  if f.characters then failAt .noLetterClass span
  else if negated then failAt .noText span
  else .ok ascii

/-- A name as it is compared: small letters, without the `is` it may begin with. -/
def plainName (name : List Char) : List Char :=
  let plain := (name.filter fun c => !(c = ' ' || c = '_' || c = '-')).map Char.toLower
  match plain with
  | 'i' :: 's' :: rest => rest
  | plain => plain

/-- No property is known; some names could only be those of values. -/
def Flags.property (f : Flags) (span : Span) (name : List Char) : Problem × Span :=
  let isValue := ["cf", "sc", "lc"].contains (String.ofList (plainName name))
  (if !f.characters then .bytesOnly else if isValue then .noPropertyValue else .noProperty, span)

def SetOp.apply : SetOp → CharSet → CharSet → CharSet
  | common => CharSet.common
  | without => CharSet.without
  | oneOf => CharSet.oneOf

/-- One side of an operator between sets. -/
def Flags.side (f : Flags) (span : Span) (s : CharSet) : Except Fault CharSet :=
  if !f.caseless then .ok s
  else if f.characters then if s.isEmpty then .ok s else failAt .noCases span
  else .ok s.bothCases

mutual

def SetItem.meaning (f : Flags) : SetItem → Except Fault CharSet
  | .letter l => (f.member l).map CharSet.single
  | .range _ first last => do .ok (.between (← f.member first) (← f.member last))
  | .named span set negated => f.close span negated set
  | .kind span ascii negated => f.kind span ascii negated
  | .property span name =>
    let (problem, span) := f.property span name
    failAt problem span
  | .inner span negated body => do f.close span negated (← body.meaning f)

def SetBody.meaning (f : Flags) : SetBody → Except Fault CharSet
  | .union _ items => itemsMeaning f items
  | .combine op left right => do
    let s ← left.meaning f
    let t ← right.meaning f
    let t ← f.side right.span t
    let s ← f.side left.span s
    .ok (op.apply s t)

def itemsMeaning (f : Flags) : List SetItem → Except Fault CharSet
  | [] => .ok .empty
  | i :: is => do
    let s ← i.meaning f
    .ok (s.union (← itemsMeaning f is))

end

/-! ## Parts -/

def Mark.meaning (f : Flags) : Mark → Assertion
  | caret => if f.manyLines then .lineStart f.crlf else .textStart
  | dollar => if f.manyLines then .lineEnd f.crlf else .textEnd
  | textStart => .textStart
  | textEnd => .textEnd
  | word edge => .word f.characters edge

/-- A character that stands for itself. -/
def Flags.letter (f : Flags) (l : Letter) : Except Fault CharSet :=
  if !f.characters && l.asByte && '\x7f' < l.char then failAt .noText l.span
  else if f.caseless then
    if f.characters then failAt .noCases l.span else .ok (CharSet.single l.char).bothCases
  else .ok (.single l.char)

def Flags.dot (f : Flags) (span : Span) : Except Fault CharSet :=
  if !f.characters then failAt .noText span
  else if f.dotAll then .ok (CharSet.empty.others lastCode)
  else if f.crlf then .ok ((CharSet.union (.single '\r') (.single '\n')).others lastCode)
  else .ok ((CharSet.single '\n').others lastCode)

mutual

/-- What a part means and the flags after it. -/
def Written.meaning (f : Flags) : Written → Except Fault (Pattern × Flags)
  | .letter l => (f.letter l).map fun s => (.one s, f)
  | .dot span => (f.dot span).map fun s => (.one s, f)
  | .mark m => .ok (.place (m.meaning f), f)
  | .kind span ascii negated => (f.kind span ascii negated).map fun s => (.one s, f)
  | .property span name =>
    let (problem, span) := f.property span name
    failAt problem span
  | .set span negated body => do
    let s ← f.close span negated (← body.meaning f)
    .ok (.one s, f)
  | .flags changes => .ok (.nothing, f.apply changes)
  | .times w least most => do
    let (p, f) ← w.meaning f
    .ok (.times p least most, f)
  | .group changes w => do
    let (p, _) ← w.meaning (f.apply changes)
    .ok (p, f)
  | .row ws => rowMeaning f ws
  | .choice ws => choiceMeaning f ws

def rowMeaning (f : Flags) : List Written → Except Fault (Pattern × Flags)
  | [] => .ok (.nothing, f)
  | w :: ws => do
    let (p, f) ← w.meaning f
    let (q, f) ← rowMeaning f ws
    .ok (.seq p q, f)

/-- Flags that one row puts up hold in the rows after it. -/
def choiceMeaning (f : Flags) : List Written → Except Fault (Pattern × Flags)
  | [] => .ok (.one .empty, f)
  | w :: ws => do
    let (p, f) ← w.meaning f
    let (q, f) ← choiceMeaning f ws
    .ok (.either p q, f)

end

/-- The pattern that a text describes, or what is wrong with it. -/
def read (text : List Char) : Except Fault Pattern := do
  let (p, _) ← (← Written.read text).meaning .initial
  if p.isDecidable then .ok p else .error .undecidable

end ReporterBlocks.Pattern
