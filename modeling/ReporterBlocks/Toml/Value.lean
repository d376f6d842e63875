/-!
# TOML values
-/

namespace ReporterBlocks.Toml

inductive Value where
  | string (s : String)
  | integer (n : Int)
  | float (x : Float)
  | boolean (b : Bool)
  /-- A date, a time or both, in canonical form. -/
  | datetime (text : String)
  | array (items : List Value)
  | table (fields : List (String × Value))

/-- The fields of a table, in the order of the document. -/
abbrev Table := List (String × Value)

/-- The key under which a table gives a date or a time as a text. -/
def datetimeKey : String := "$__toml_private_datetime"

/-- Integers are those of 64 bits. -/
def minInteger : Int := -0x8000000000000000

def maxInteger : Int := 0x7fffffffffffffff

namespace Value

def string? : Value → Option String
  | string s => some s
  | _ => none

def boolean? : Value → Option Bool
  | boolean b => some b
  | _ => none

def natural? : Value → Option Nat
  | integer n => if 0 ≤ n then some n.toNat else none
  | _ => none

def array? : Value → Option (List Value)
  | array vs => some vs
  | _ => none

/-- An array or a table with nothing in it. -/
def isEmpty : Value → Bool
  | array vs => vs.isEmpty
  | table fs => fs.isEmpty
  | _ => false

end Value

/-- What a table holds under a key, as `read` understands it; none if it does not. Where the table
holds nothing, `absent` stands in. -/
def Table.field {α : Type} (t : Table) (key : String) (read : Value → Option α)
    (absent : Option α) : Option α :=
  match t.lookup key with
  | some v => read v
  | none => absent

/-- A field that may be missing. -/
def Table.field? {α : Type} (t : Table) (key : String) (read : Value → Option α) :
    Option (Option α) :=
  t.field key (fun v => (read v).map some) (some none)

end ReporterBlocks.Toml
