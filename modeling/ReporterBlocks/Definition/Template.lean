import ReporterBlocks.Specifier.Fragment

/-!
# Block templates

A template is the text of a block with typed argument slots in it. It holds no empty text and no two
texts side by side.
-/

namespace ReporterBlocks

inductive TemplatePart where
  | text (text : String)
  | slot (kind : SlotKind)
  deriving DecidableEq, Repr

abbrev Template := List TemplatePart

namespace Template

/-- Puts text in front, into the text that is there if there is one. -/
def addText (text : String) (t : Template) : Template :=
  if text = "" then t
  else
    match t with
    | .text rest :: parts => .text (text ++ rest) :: parts
    | parts => .text text :: parts

def addSlot (kind : SlotKind) (t : Template) : Template := .slot kind :: t

def addPiece : Piece → Template → Template
  | .label text, t => t.addText text
  | .slot kind _, t => t.addSlot kind

/-- The template of a block that is called with one argument for each slot. -/
def ofPieces (ps : List Piece) : Template := ps.foldr addPiece []

/-- The text of a part as the host reads it. -/
def partText : TemplatePart → String
  | .text text => text
  | .slot kind => kind.token

def toText (t : Template) : String := String.join (t.map partText)

end Template

end ReporterBlocks
