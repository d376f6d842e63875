import ReporterBlocks.Pattern.Cursor
import ReporterBlocks.Pattern.Written
import ReporterBlocks.Text.Reader

/-!
# Escapes

A backslash takes the meaning from a character that has one, and gives one to some letters.
-/

namespace ReporterBlocks.Pattern

/-- What stands for one character or asks something of a place. -/
inductive Primitive where
  | letter (l : Letter)
  | mark (span : Span) (m : Mark)
  | kind (span : Span) (ascii : CharSet) (negated : Bool)
  | property (span : Span) (name : List Char)

/-- Characters whose meaning a backslash takes away; it may stand before any ASCII character that is
no letter, digit or angle bracket. -/
def isEscapable (c : Char) : Bool :=
  c ≤ '\x7f' && !(c.isAlphanum || c = '<' || c = '>')

def controlOf? : Char → Option Char
  | 'a' => some '\x07'
  | 'f' => some '\x0c'
  | 't' => some '\t'
  | 'n' => some '\n'
  | 'r' => some '\r'
  | 'v' => some '\x0b'
  | _ => none

def kindOf? : Char → Option (CharSet × Bool)
  | 'd' => some (.digits, false)
  | 's' => some (.blanks, false)
  | 'w' => some (.wordChars, false)
  | 'D' => some (.digits, true)
  | 'S' => some (.blanks, true)
  | 'W' => some (.wordChars, true)
  | _ => none

/-- How many digits the code point has after each letter. -/
def hexLength? : Char → Option Nat
  | 'x' => some 2
  | 'u' => some 4
  | 'U' => some 8
  | _ => none

def markOf? : Char → Option Mark
  | 'A' => some .textStart
  | 'z' => some .textEnd
  | 'b' => some (.word .boundary)
  | 'B' => some (.word .noBoundary)
  | '<' => some (.word .start)
  | '>' => some (.word .finish)
  | _ => none

def edgeOf? : String → Option WordEdge
  | "start" => some .start
  | "end" => some .finish
  | "start-half" => some .startHalf
  | "end-half" => some .finishHalf
  | _ => none

/-- The character of hexadecimal digits; `first` is where the digits begin. -/
def hexChar (first last : Nat) (digits : List Char) : Except Fault Char :=
  let code := Text.numeral 16 digits
  if code.isValidChar then .ok (Char.ofNat code) else fail .hexNoCharacter first last

/-- So many hexadecimal digits. -/
def hexDigits (spaced : Bool) : Nat → Cursor → Except Fault (List Char × Cursor)
  | 0, c => .ok ([], c)
  | n + 1, c =>
    match c.rest with
    | [] => c.fail .escapeEnd
    | d :: _ =>
      if Text.isHexDigit d then
        (hexDigits spaced n (c.next spaced)).map fun (ds, c) => (d :: ds, c)
      else c.failHere .hexDigit

/-- A character by its code point, from the letter after the backslash on. -/
def hexLetter (spaced : Bool) (start length : Nat) (c : Cursor) :
    Except Fault (Letter × Cursor) := do
  let c := c.next spaced
  match c.rest with
  | [] => c.fail .escapeEnd
  | '{' :: _ =>
    let brace := c.pos
    let (digits, c) := (c.next spaced).takeAll spaced Text.isHexDigit
    match c.rest with
    | [] => fail .escapeEnd brace c.pos
    | '}' :: _ =>
      let last := c.pos
      let c := c.next spaced
      if digits = [] then fail .hexEmpty brace c.pos
      else .ok (⟨⟨start, c.pos⟩, ← hexChar (brace + 1) last digits, false⟩, c)
    | _ => c.failHere .hexDigit
  | _ =>
    let first := c.pos
    let (digits, c) ← hexDigits spaced length c
    .ok (⟨⟨start, c.pos⟩, ← hexChar first c.pos digits, length = 2⟩, c)

/-- A property by its name, from the letter after the backslash on. -/
def property (spaced : Bool) (start : Nat) (c : Cursor) :
    Except Fault (Primitive × Cursor) :=
  let c := c.next spaced
  match c.rest with
  | [] => c.fail .escapeEnd
  | '\\' :: _ => c.failHere .propertyName
  | '{' :: _ =>
    let (name, c) := (c.next spaced).takeAll spaced (· ≠ '}')
    if c.rest = [] then c.fail .escapeEnd
    else
      let c := c.bump
      .ok (.property ⟨start, c.pos⟩ name, c)
  | letter :: _ =>
    let c := c.next spaced
    .ok (.property ⟨start, c.pos⟩ [letter], c)

/-- What a brace after a word boundary makes of it; a brace with no letter in it is left alone. -/
def edge (spaced : Bool) (start : Nat) (c : Cursor) : Except Fault (WordEdge × Cursor) :=
  match c.rest with
  | '{' :: _ =>
    let brace := c.pos
    let inside := c.next spaced
    let isNameChar (d : Char) : Bool := d.isAlpha || d = '-'
    match inside.rest with
    | [] => fail .edgeEnd start inside.pos
    | d :: _ =>
      if !isNameChar d then .ok (.boundary, c)
      else
        let (name, c) := inside.takeAll spaced isNameChar
        match c.rest with
        | '}' :: _ =>
          match edgeOf? (String.ofList name) with
          | some e => .ok (e, c.bump)
          | none => fail .edgeUnknown inside.pos c.pos
        | _ => fail .edgeOpen brace c.pos
  | _ => .ok (.boundary, c)

/-- An escape, from the backslash on. -/
def escape (spaced : Bool) (c : Cursor) : Except Fault (Primitive × Cursor) :=
  let start := c.pos
  let c := c.bump
  match c.rest with
  | [] => fail .escapeEnd start c.pos
  | d :: _ =>
    let after := c.bump
    let span : Span := ⟨start, after.pos⟩
    if d.isDigit then fail .backReference start after.pos
    else if d = 'p' || d = 'P' then property spaced start c
    else if d = 'b' then
      (edge spaced start after).map fun (e, c) => (.mark ⟨start, c.pos⟩ (.word e), c)
    else
      match hexLength? d, kindOf? d, markOf? d, controlOf? d with
      | some length, _, _, _ =>
        (hexLetter spaced start length c).map fun (l, c) => (.letter l, c)
      | _, some (ascii, negated), _, _ => .ok (.kind span ascii negated, after)
      | _, _, some m, _ => .ok (.mark span m, after)
      | _, _, _, some control => .ok (.letter ⟨span, control, false⟩, after)
      | _, _, _, _ =>
        if isEscapable d then .ok (.letter ⟨span, d, false⟩, after)
        else fail .escapeUnknown start after.pos

end ReporterBlocks.Pattern
