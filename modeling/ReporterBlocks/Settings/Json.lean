import ReporterBlocks.Json.Document
import ReporterBlocks.Settings.Toml

/-!
# Settings in JSON

Settings are an object, in which no setting is given twice, or an array with the settings in order.
What is missing keeps its default.
-/

namespace ReporterBlocks

namespace Settings

open Json (Value)

/-- Sixty-four bits hold no larger limit. -/
def maxLimit : Nat := 0xffffffffffffffff

def jsonText? : Value → Option String
  | .string s => s
  | _ => none

/-- A policy is its word, or the word as the one key of an object, with null under it. -/
def jsonOverlap? : Value → Option Overlap
  | .string (some word) => Overlap.ofWord? word
  | .object [(some word, .null)] => Overlap.ofWord? word
  | _ => none

/-- A number without sign, fraction and exponent. -/
def jsonLimit? : Value → Option Nat
  | .number literal =>
    let ds := literal.toList
    let n := Text.numeral 10 ds
    if ds.all Char.isDigit && n ≤ maxLimit then some n else none
  | _ => none

/-- What is given under a key: none if it is given twice or not understood. -/
def jsonField {α : Type} (fields : List (Json.Decoded × Value)) (key : String)
    (read : Value → Option α) (absent : α) : Option α :=
  match fields.filter fun f => f.1 = some key with
  | [] => some absent
  | [(_, v)] => read v
  | _ => none

def ofFields? (fields : List (Json.Decoded × Value)) : Option Settings := do
  if fields.any fun f => f.1.isNone then none
  else
    some
      { name := ← jsonField fields "name" jsonText? default.name
        overlap := ← jsonField fields "overlap" jsonOverlap? default.overlap
        queueLimit := ← jsonField fields "queue_limit" jsonLimit? default.queueLimit }

/-- Settings in order; the later ones may be missing. -/
def ofItems? : List Value → Option Settings
  | [] => some default
  | [n] => do some { default with name := ← jsonText? n }
  | [n, o] => do some { default with name := ← jsonText? n, overlap := ← jsonOverlap? o }
  | [n, o, l] => do
    some { name := ← jsonText? n, overlap := ← jsonOverlap? o, queueLimit := ← jsonLimit? l }
  | _ => none

def ofJson? (text : String) : Option Settings := do
  match ← Json.parse text.toList with
  | .object fields => ofFields? fields
  | .array items => ofItems? items
  | _ => none

end Settings

end ReporterBlocks
