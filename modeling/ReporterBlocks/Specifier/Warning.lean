import ReporterBlocks.Specifier.Fragment

/-!
# Warnings

Every text is a specifier. A `Warning` is a place where the text was taken in a way that its author
may not have meant, and a `Report` is a warning in words.
-/

namespace ReporterBlocks

inductive Warning where
  /-- A closing delimiter that stands outside every slot. -/
  | strayCloser (delimiter : Char) (pos : Nat)
  /-- An escape character with nothing after it. -/
  | danglingEscape (pos : Nat)
  /-- A slot that is still open at the end. -/
  | unterminatedSlot (kind : SlotKind) (span : Span)
  /-- Nothing was written. -/
  | nothing
  deriving DecidableEq, Repr

namespace Warning

def message : Warning → String
  | strayCloser c _ => "`" ++ String.singleton c ++ "` outside a slot is kept as label text"
  | danglingEscape _ => "escape character at end of specifier is dropped"
  | unterminatedSlot k _ => "unterminated " ++ k.describe ++ " slot"
  | nothing => "specifier has no label and no slots"

/-- How to write what the text was taken for. -/
def advice? : Warning → Option String
  | strayCloser c _ => some ("write `_" ++ String.singleton c ++ "` to make this explicit")
  | danglingEscape _ => some "use `__` for a literal underscore"
  | unterminatedSlot k _ => some ("the slot runs to the end of the specifier; add `" ++
      String.singleton k.closing ++ "` to close it")
  | nothing => none

def span : Warning → Span
  | strayCloser c pos => ⟨pos, pos + c.utf8Size⟩
  | danglingEscape pos => ⟨pos, pos + escapeChar.utf8Size⟩
  | unterminatedSlot _ span => span
  | nothing => ⟨0, 0⟩

end Warning

inductive Severity where
  | warning
  deriving DecidableEq, Repr

/-- A warning in words. The source is the number that the reader of the report knows the text by. -/
structure Report where
  severity : Severity
  message : String
  source : Nat
  span : Span
  notes : List String
  deriving DecidableEq, Repr

def Warning.report (source : Nat) (w : Warning) : Report :=
  { severity := .warning
    message := w.message
    source := source
    span := w.span
    notes := w.advice?.toList }

end ReporterBlocks
