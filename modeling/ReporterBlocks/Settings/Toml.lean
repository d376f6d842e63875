import ReporterBlocks.Settings
import ReporterBlocks.Toml.Document

/-!
# Settings in TOML

A document may give any of the three settings; the others keep their defaults. Keys that are no
settings are passed over.
-/

namespace ReporterBlocks

/-- The word for a policy where settings are written. -/
def Overlap.ofWord? : String → Option Overlap
  | "supersede" => some .supersede
  | "queue" => some .queue
  | _ => none

/-- A policy is its word, or the word as the one key of a table, with nothing under it. -/
def Overlap.ofToml? : Toml.Value → Option Overlap
  | .string word => ofWord? word
  | .table [(word, v)] => if v.isEmpty then ofWord? word else none
  | _ => none

def Settings.ofTable? (t : Toml.Table) : Option Settings := do
  some
    { name := ← t.field "name" Toml.Value.string? (some default.name)
      overlap := ← t.field "overlap" Overlap.ofToml? (some default.overlap)
      queueLimit := ← t.field "queue_limit" Toml.Value.natural? (some default.queueLimit) }

def Settings.ofToml? (text : String) : Option Settings := Toml.parse text.toList >>= ofTable?

end ReporterBlocks
