import ReporterBlocks.Specifier.Slot

/-!
# Fragments

A specifier is a sequence of label texts and argument slots. A `Piece` is one of them, a `Fragment`
is a piece with the bytes of the specifier that it was written in.
-/

namespace ReporterBlocks

inductive Piece where
  | label (text : String)
  | slot (kind : SlotKind) (name : String)
  deriving DecidableEq, Repr

namespace Piece

def text : Piece → String
  | label t => t
  | slot _ t => t

def kind? : Piece → Option SlotKind
  | label _ => none
  | slot k _ => some k

def describe (p : Piece) : String :=
  match p.kind? with
  | none => "label"
  | some k => k.describe

/-- The piece as the block that defines a reporter shows it. -/
def display : Piece → String
  | label t => t
  | slot k name => String.singleton k.opening ++ name ++ String.singleton k.closing ++ " "

end Piece

/-- A stretch of bytes, the last one excluded. -/
structure Span where
  start : Nat
  stop : Nat
  deriving DecidableEq, Repr

structure Fragment where
  piece : Piece
  span : Span
  deriving DecidableEq, Repr

end ReporterBlocks
