import ReporterBlocks.Pattern.Bracket
import ReporterBlocks.Pattern.Group

/-!
# Reading patterns

A pattern is a choice between rows of parts. A part may be followed by how often it is to come, and
parentheses make a pattern a part.
-/

namespace ReporterBlocks.Pattern

/-! ## Repetition -/

/-- A decimal number between blanks, or what is wrong with it. -/
def count (spaced : Bool) (c : Cursor) : Except Fault Nat × Cursor :=
  let (_, c) := c.takeAll false Text.isBlank
  let first := c.pos
  let (digits, c) := c.takeAll spaced Char.isDigit
  let last := c.pos
  let (_, c) := c.takeAll spaced Text.isBlank
  let n := Text.numeral 10 digits
  (if digits = [] then fail .countEmpty first last
    else if n < 0x100000000 then .ok n
    else fail .countLarge first last, c)

/-- The place after a question mark, which asks for the fewest; that makes no difference to whether
a pattern stands in a text. -/
def afterLazy (c : Cursor) : Cursor :=
  match c.rest with
  | '?' :: _ => c.bump
  | _ => c

/-- The end of a repetition in braces that began at `start`. -/
def closeCount (spaced : Bool) (start least : Nat) (most : Option Nat) (c : Cursor) :
    Except Fault ((Nat × Option Nat) × Cursor) :=
  match c.rest with
  | '}' :: _ =>
    let c := afterLazy (c.next spaced)
    if most.any (· < least) then fail .countOrder start c.pos else .ok ((least, most), c)
  | _ => fail .countOpen start c.pos

/-- A repetition in braces, from the first of them on. -/
def counted (spaced : Bool) (c : Cursor) : Except Fault ((Nat × Option Nat) × Cursor) := do
  let start := c.pos
  let c := c.next spaced
  if c.rest = [] then fail .countOpen start c.pos
  else
    let (least, c) := count spaced c
    match c.rest with
    | [] => fail .countOpen start c.pos
    | ',' :: _ =>
      let c := c.next spaced
      match c.rest with
      | [] => fail .countOpen start c.pos
      | '}' :: _ => closeCount spaced start (← least) none c
      | _ =>
        let least ← least
        let (most, c) := count spaced c
        closeCount spaced start least (some (← most)) c
    | _ =>
      let least ← least
      closeCount spaced start least (some least) c

/-- How often the part before the cursor is to come, if that stands there. -/
def repetition? (spaced : Bool) (c : Cursor) :
    Option (Except Fault ((Nat × Option Nat) × Cursor)) :=
  match c.rest with
  | '?' :: _ => some (.ok ((0, some 1), afterLazy c.bump))
  | '*' :: _ => some (.ok ((0, none), afterLazy c.bump))
  | '+' :: _ => some (.ok ((1, none), afterLazy c.bump))
  | '{' :: _ => some (counted spaced c)
  | _ => none

/-- Whether a part can be repeated. -/
def Written.isPart : Written → Bool
  | flags _ => false
  | _ => true

/-! ## Patterns -/

def Written.ofPrimitive : Primitive → Written
  | .letter l => .letter l
  | .mark _ m => .mark m
  | .kind span ascii negated => .kind span ascii negated
  | .property span name => .property span name

/-- A part that is no group, set or repetition. -/
def simplePart (spaced : Bool) (c : Cursor) : Except Fault (Written × Cursor) :=
  match c.rest with
  | '\\' :: _ => (escape spaced c).map fun (p, c) => (.ofPrimitive p, c)
  | '.' :: _ => .ok (.dot ⟨c.pos, c.pos + 1⟩, c.bump)
  | '^' :: _ => .ok (.mark .caret, c.bump)
  | '$' :: _ => .ok (.mark .dollar, c.bump)
  | d :: _ => .ok (.letter ⟨⟨c.pos, c.pos + 1⟩, d, false⟩, c.bump)
  | [] => .ok (.row [], c)

/-- What has been read of a pattern or of a group in it. -/
structure Open where
  /-- The parenthesis of the group. -/
  paren : Option Span
  spaced : Bool
  names : Names
  /-- The rows before the last, and the parts of the last; the last come first. -/
  rows : List Written
  parts : List Written

namespace Open

def start (paren : Option Span) (spaced : Bool) (names : Names) : Open :=
  ⟨paren, spaced, names, [], []⟩

def push (w : Written) (o : Open) : Open := { o with parts := w :: o.parts }

def row (o : Open) : Written := .row o.parts.reverse

/-- Goes on with another row. -/
def choose (o : Open) : Open := { o with rows := o.row :: o.rows, parts := [] }

def written (o : Open) : Written := .choice (o.row :: o.rows).reverse

/-- Puts flags up or down that change how the rest is read. -/
def change (changes : FlagChanges) (o : Open) : Open :=
  { o with spaced := (changes.find? .spaced).getD o.spaced, parts := .flags changes :: o.parts }

/-- Reads on to the end of the pattern or group; every turn takes a character, of no more than
`fuel`. -/
def finish : Nat → Open → Cursor → Except Fault (Open × Cursor)
  | 0, o, c => .ok (o, c)
  | fuel + 1, o, c => do
    let c := c.pass o.spaced
    match c.rest with
    | [] =>
      match o.paren with
      | some p => fail .groupOpen p.first p.last
      | none => .ok (o, c)
    | ')' :: _ =>
      match o.paren with
      | some _ => .ok (o, c.bump)
      | none => c.failHere .groupClosed
    | '|' :: _ => finish fuel o.choose c.bump
    | '(' :: _ => do
      let (head, after) ← groupHead o.spaced o.names c
      match head with
      | .flags changes => finish fuel (o.change changes) after
      | .group changes names => do
        let spaced := (changes.find? .spaced).getD o.spaced
        let (inner, after) ←
          finish fuel (.start (some ⟨c.pos, c.pos + 1⟩) spaced names) after
        let o := { o with names := inner.names }
        finish fuel (o.push (.group changes inner.written)) after
    | '[' :: _ => do
      let (w, c) ← bracket o.spaced c
      finish fuel (o.push w) c
    | _ =>
      match repetition? o.spaced c with
      | none => do
        let (w, c) ← simplePart o.spaced c
        finish fuel (o.push w) c
      | some found =>
        match o.parts with
        | w :: parts =>
          if w.isPart then do
            let ((least, most), c) ← found
            finish fuel { o with parts := .times w least most :: parts } c
          else c.fail .nothingRepeated
        | [] => c.fail .nothingRepeated

end Open

/-- The pattern as it is written, or what is wrong with it. -/
def Written.read (cs : List Char) : Except Fault Written :=
  (Open.finish (cs.length + 1) (.start none false []) ⟨0, cs⟩).map fun (o, _) => o.written

end ReporterBlocks.Pattern
