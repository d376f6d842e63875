import ReporterBlocks.Pattern.Escape
import ReporterBlocks.Text.Cut

/-!
# Sets between brackets

Between brackets stand characters, ranges, named sets and sets in brackets of their own, which add
up; of two such sums with an operator between them the operator makes one.
-/

namespace ReporterBlocks.Pattern

/-- The ASCII sets that have names. -/
def namedSet? : String → Option CharSet
  | "alnum" => some (.union .letters .digits)
  | "alpha" => some .letters
  | "ascii" => some (.between '\x00' '\x7f')
  | "blank" => some (.union (.single '\t') (.single ' '))
  | "cntrl" => some (.union (.between '\x00' '\x1f') (.single '\x7f'))
  | "digit" => some .digits
  | "graph" => some (.between '!' '~')
  | "lower" => some .smalls
  | "print" => some (.between ' ' '~')
  | "punct" => some ((CharSet.between '!' '~').without (.union .letters .digits))
  | "space" => some .blanks
  | "upper" => some .capitals
  | "word" => some .wordChars
  | "xdigit" => some (.union .digits (.union (.between 'A' 'F') (.between 'a' 'f')))
  | _ => none

/-- A named set, with its brackets and colons, if one stands there. -/
def named? (c : Cursor) : Option (SetItem × Cursor) :=
  match c.rest with
  | '[' :: ':' :: cs => do
    let (negated, cs, skipped) := match cs with
      | '^' :: cs => (true, cs, 3)
      | cs => (false, cs, 2)
    let (name, after) ← Text.cut? [':', ']'] cs
    let set ← namedSet? (String.ofList name)
    let last := c.pos + skipped + name.length + 2
    some (.named ⟨c.pos, last⟩ set negated, ⟨last, after⟩)
  | _ => none

/-- One character or escape between brackets. -/
def setPrimitive (spaced : Bool) (c : Cursor) : Except Fault (Primitive × Cursor) :=
  match c.rest with
  | '\\' :: _ => escape spaced c
  | d :: _ => .ok (.letter ⟨⟨c.pos, c.pos + 1⟩, d, false⟩, c.bump)
  | [] => c.fail .setOpen

def SetItem.ofPrimitive : Primitive → Except Fault SetItem
  | .letter l => .ok (.letter l)
  | .kind span ascii negated => .ok (.kind span ascii negated)
  | .property span name => .ok (.property span name)
  | .mark span _ => fail .setEscape span.first span.last

/-- The character that a range may begin or end with. -/
def rangeEnd : Primitive → Except Fault Letter
  | .letter l => .ok l
  | .kind span _ _ | .property span _ | .mark span _ => fail .setEnds span.first span.last

/-- Whether a dash at the cursor makes a range: not before a bracket or another dash. -/
def beginsRange (spaced : Bool) (c : Cursor) : Bool :=
  match c.rest with
  | '-' :: _ =>
    let following := (c.next spaced).rest.head?
    following ≠ some ']' && following ≠ some '-'
  | _ => false

/-- A character, a range or a kind of characters; `opening` is the bracket that is still open. -/
def setItem (spaced : Bool) (opening : Span) (c : Cursor) :
    Except Fault (SetItem × Cursor) := do
  let unclosed : Except Fault (SetItem × Cursor) := fail .setOpen opening.first opening.last
  let (first, c) ← setPrimitive spaced c
  let c := c.pass spaced
  if c.rest = [] then unclosed
  else if beginsRange spaced c then
    let c := c.next spaced
    if c.rest = [] then unclosed
    else
      let (last, c) ← setPrimitive spaced c
      let first ← rangeEnd first
      let last ← rangeEnd last
      let span : Span := ⟨first.span.first, last.span.last⟩
      if last.char < first.char then fail .setOrder span.first span.last
      else .ok (.range span first last, c)
  else .ok (← SetItem.ofPrimitive first, c)

/-- The items gathered last first, as a sum; without any it stands at `origin`. -/
def SetBody.ofItems (origin : Nat) (gathered : List SetItem) : SetBody :=
  let items := gathered.reverse
  match items.head?, gathered.head? with
  | some a, some b => .union ⟨a.span.first, b.span.last⟩ items
  | _, _ => .union ⟨origin, origin⟩ items

/-- What has been read between a bracket and the cursor. -/
structure OpenSet where
  opening : Span
  negated : Bool
  /-- What stands before the last operator. -/
  left : Option (SetBody × SetOp)
  /-- Where the sum begins that is being gathered. -/
  origin : Nat
  /-- Its items, last first. -/
  gathered : List SetItem

namespace OpenSet

def push (i : SetItem) (o : OpenSet) : OpenSet := { o with gathered := i :: o.gathered }

def body (o : OpenSet) : SetBody :=
  let right := SetBody.ofItems o.origin o.gathered
  match o.left with
  | none => right
  | some (left, op) => .combine op left right

/-- Goes on after an operator, which ends before `origin`. -/
def operate (op : SetOp) (origin : Nat) (o : OpenSet) : OpenSet :=
  { o with left := some (o.body, op), origin := origin, gathered := [] }

/-- The dashes that a set begins with, which stand for themselves. -/
def dashes (spaced : Bool) (start : Nat) : Nat → List SetItem → Cursor →
    Except Fault (List SetItem × Cursor)
  | 0, items, c => .ok (items, c)
  | fuel + 1, items, c =>
    match c.rest with
    | '-' :: _ =>
      let dash : SetItem := .letter ⟨⟨c.pos, c.pos + 1⟩, '-', false⟩
      let c := c.next spaced
      if c.rest = [] then fail .setOpen start start
      else dashes spaced start fuel (dash :: items) c
    | _ => .ok (items, c)

/-- The bracket that opens a set, a sign that negates it, and the dashes or the bracket that it
begins with. -/
def start (spaced : Bool) (c : Cursor) : Except Fault (OpenSet × Cursor) := do
  let first := c.pos
  let c := c.next spaced
  let (negated, c) := match c.rest with
    | '^' :: _ => (true, c.next spaced)
    | _ => (false, c)
  if c.rest = [] then fail .setOpen first c.pos
  else
    let origin := c.pos
    let (items, c) ← dashes spaced first c.rest.length [] c
    let (items, c) := match items, c.rest with
      | [], ']' :: _ =>
        ([SetItem.letter ⟨⟨c.pos, c.pos + 1⟩, ']', false⟩], c.next spaced)
      | items, _ => (items, c)
    if c.rest = [] then fail .setOpen first c.pos
    else .ok (⟨⟨first, c.pos⟩, negated, none, origin, items⟩, c)

/-- Reads on to the bracket that closes the set; every turn takes a character, of no more than
`fuel`. -/
def finish (spaced : Bool) : Nat → OpenSet → Cursor → Except Fault (OpenSet × Cursor)
  | 0, o, _ => fail .setOpen o.opening.first o.opening.last
  | fuel + 1, o, c => do
    let c := c.pass spaced
    match c.rest with
    | [] => fail .setOpen o.opening.first o.opening.last
    | ']' :: _ => .ok (o, c.bump)
    | '[' :: _ =>
      match named? c with
      | some (i, c) => finish spaced fuel (o.push i) c
      | none => do
        let (inner, after) ← start spaced c
        let (inner, after) ← finish spaced fuel inner after
        finish spaced fuel (o.push (.inner ⟨c.pos, after.pos⟩ inner.negated inner.body)) after
    | '&' :: '&' :: _ => finish spaced fuel (o.operate .common (c.pos + 2)) c.bump.bump
    | '-' :: '-' :: _ => finish spaced fuel (o.operate .without (c.pos + 2)) c.bump.bump
    | '~' :: '~' :: _ => finish spaced fuel (o.operate .oneOf (c.pos + 2)) c.bump.bump
    | _ => do
      let (i, c) ← setItem spaced o.opening c
      finish spaced fuel (o.push i) c

end OpenSet

/-- A set, from its bracket on. -/
def bracket (spaced : Bool) (c : Cursor) : Except Fault (Written × Cursor) := do
  let (o, after) ← OpenSet.start spaced c
  let (o, after) ← OpenSet.finish spaced after.rest.length o after
  .ok (.set ⟨c.pos, after.pos⟩ o.negated o.body, after)

end ReporterBlocks.Pattern
