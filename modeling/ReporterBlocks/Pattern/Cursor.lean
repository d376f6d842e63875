import ReporterBlocks.Pattern.Fault
import ReporterBlocks.Text.Blank

/-!
# Cursors

A place in a written pattern and what stands after it. In a spaced pattern blanks count for nothing,
nor does what follows a number sign up to the end of the line.
-/

namespace ReporterBlocks.Pattern

structure Cursor where
  pos : Nat
  rest : List Char

def fail {α : Type} (p : Problem) (first last : Nat) : Except Fault α :=
  .error (.mistake p ⟨first, last⟩ none)

namespace Cursor

/-- The place after the next character. -/
def bump (c : Cursor) : Cursor :=
  match c.rest with
  | [] => c
  | _ :: cs => ⟨c.pos + 1, cs⟩

/-- Passes blanks and comments; `inComment` says whether a comment goes on. -/
def passFrom (inComment : Bool) (pos : Nat) : List Char → Cursor
  | [] => ⟨pos, []⟩
  | c :: cs =>
    if inComment then passFrom (c ≠ '\n') (pos + 1) cs
    else if Text.isBlank c then passFrom false (pos + 1) cs
    else if c = '#' then passFrom true (pos + 1) cs
    else ⟨pos, c :: cs⟩

def pass (spaced : Bool) (c : Cursor) : Cursor :=
  if spaced then passFrom false c.pos c.rest else c

/-- The place of the next character that counts, after this one. -/
def next (spaced : Bool) (c : Cursor) : Cursor := c.bump.pass spaced

def fail {α : Type} (c : Cursor) (p : Problem) : Except Fault α :=
  Pattern.fail p c.pos c.pos

/-- A problem with the next character. -/
def failHere {α : Type} (c : Cursor) (p : Problem) : Except Fault α :=
  Pattern.fail p c.pos (c.pos + 1)

/-- The characters that all satisfy `p`, of no more than `fuel`, and the place after them. -/
def takeWhile (spaced : Bool) (p : Char → Bool) : Nat → Cursor → List Char × Cursor
  | 0, c => ([], c)
  | fuel + 1, c =>
    match c.rest with
    | [] => ([], c)
    | d :: _ =>
      if p d then
        let (ds, c) := takeWhile spaced p fuel (c.next spaced)
        (d :: ds, c)
      else ([], c)

def takeAll (spaced : Bool) (p : Char → Bool) (c : Cursor) : List Char × Cursor :=
  c.takeWhile spaced p c.rest.length

end Cursor

end ReporterBlocks.Pattern
