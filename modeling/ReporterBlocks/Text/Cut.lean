/-!
# Cutting a text

A text is cut at the first place where another text stands in it, or wherever one character does.
-/

namespace ReporterBlocks.Text

/-- What stands before and after the first `sep`. -/
def cut? (sep : List Char) (cs : List Char) : Option (List Char × List Char) :=
  if sep.isPrefixOf cs then some ([], cs.drop sep.length)
  else
    match cs with
    | [] => none
    | c :: cs => (cut? sep cs).map fun (front, back) => (c :: front, back)

/-- Whether a text stands somewhere in another one. -/
def occursIn (s t : String) : Bool := (cut? s.toList t.toList).isSome

/-- The pieces between separators, always at least one. -/
def piecesAt (sep : Char) : List Char → List (List Char)
  | [] => [[]]
  | c :: cs =>
    if c = sep then [] :: piecesAt sep cs
    else
      match piecesAt sep cs with
      | [] => [[c]]
      | l :: ls => (c :: l) :: ls

end ReporterBlocks.Text
