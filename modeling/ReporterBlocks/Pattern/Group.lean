import ReporterBlocks.Pattern.Cursor
import ReporterBlocks.Pattern.Written

/-!
# Groups

What stands at the front of a group, inside its parenthesis: a name, or flags. Flags alone hold for
what follows them.
-/

namespace ReporterBlocks.Pattern

def flagOf? : Char → Option Flag
  | 'i' => some .caseless
  | 'm' => some .manyLines
  | 's' => some .dotAll
  | 'U' => some .lazy
  | 'u' => some .characters
  | 'R' => some .crlf
  | 'x' => some .spaced
  | _ => none

/-- The changes that flags ask for: they are put up, and behind a dash, which is none, taken
down. -/
def flagChanges (up : Bool) : List (Option Flag) → FlagChanges
  | [] => []
  | none :: fs => flagChanges false fs
  | some f :: fs => (f, up) :: flagChanges up fs

/-- Whether the changes put a flag up or down. -/
def FlagChanges.find? (changes : FlagChanges) (f : Flag) : Option Bool := changes.lookup f

/-- Flags up to a colon or a parenthesis; `seen` are those before, the last first. -/
def flagsFrom (seen : List (Option Flag × Span)) (pos : Nat) :
    List Char → Except Fault (FlagChanges × Cursor)
  | [] => fail .flagEnd pos pos
  | d :: ds =>
    let here : Span := ⟨pos, pos + 1⟩
    if d = ':' || d = ')' then
      match seen with
      | (none, dash) :: _ => fail .flagDangling dash.first dash.last
      | _ => .ok (flagChanges true (seen.reverse.map Prod.fst), ⟨pos, d :: ds⟩)
    else if d ≠ '-' && (flagOf? d).isNone then fail .flagUnknown here.first here.last
    else
      let flag := flagOf? d
      match seen.lookup flag with
      | some earlier =>
        .error (.mistake (if d = '-' then .flagNegatedTwice else .flagTwice) here (some earlier))
      | none => flagsFrom ((flag, here) :: seen) (pos + 1) ds

abbrev Names := List (List Char × Span)

/-- Letters of every script may begin a name; digits, points and square brackets may follow. -/
def isNameChar (atStart : Bool) (c : Char) : Bool :=
  c = '_' || c.isAlpha || ('\x7f' < c && !Text.isBlank c) ||
    (!atStart && (c.isDigit || c = '.' || c = '[' || c = ']'))

/-- A name up to the angle bracket that closes it. -/
def nameFrom (atStart : Bool) (pos : Nat) : List Char → Except Fault (List Char × Cursor)
  | [] => fail .nameEnd pos pos
  | d :: ds =>
    if d = '>' then .ok ([], ⟨pos, d :: ds⟩)
    else if isNameChar atStart d then
      (nameFrom false (pos + 1) ds).map fun (name, c) => (d :: name, c)
    else fail .nameCharacter pos (pos + 1)

/-- A name that is not among those before it, and the place after its angle bracket. -/
def groupName (names : Names) (c : Cursor) : Except Fault (Names × Cursor) := do
  let (name, after) ← nameFrom true c.pos c.rest
  let span : Span := ⟨c.pos, after.pos⟩
  if name = [] then c.fail .nameEmpty
  else
    match names.lookup name with
    | some earlier => .error (.mistake .nameTwice span (some earlier))
    | none => .ok ((name, span) :: names, after.bump)

inductive GroupHead where
  /-- Flags for what follows. -/
  | flags (changes : FlagChanges)
  /-- A group with flags of its own. -/
  | group (changes : FlagChanges) (names : Names)

def isLookAround : List Char → Option Nat
  | '?' :: '=' :: _ | '?' :: '!' :: _ => some 2
  | '?' :: '<' :: '=' :: _ | '?' :: '<' :: '!' :: _ => some 3
  | _ => none

/-- The front of a group, from its parenthesis on. -/
def groupHead (spaced : Bool) (names : Names) (c : Cursor) :
    Except Fault (GroupHead × Cursor) := do
  let start := c.pos
  let c := c.next spaced
  match isLookAround c.rest with
  | some length => fail .lookAround start (c.pos + length)
  | none =>
    match c.rest with
    | '?' :: 'P' :: '<' :: cs => do
      let (names, c) ← groupName names ⟨c.pos + 3, cs⟩
      .ok (.group [] names, c)
    | '?' :: '<' :: cs => do
      let (names, c) ← groupName names ⟨c.pos + 2, cs⟩
      .ok (.group [] names, c)
    | ['?'] => fail .groupOpen start (start + 1)
    | '?' :: cs => do
      let (changes, after) ← flagsFrom [] (c.pos + 1) cs
      match after.rest with
      | ')' :: _ =>
        if changes = [] then c.fail .nothingRepeated else .ok (.flags changes, after.bump)
      | _ => .ok (.group changes names, after.bump)
    | _ => .ok (.group [] names, c)

end ReporterBlocks.Pattern
