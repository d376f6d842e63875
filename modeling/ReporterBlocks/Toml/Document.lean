import ReporterBlocks.Toml.Statement

/-!
# TOML documents

The statements of a document build a tree of tables. A table remembers how it came about, since only
one that no header has opened can be opened by a header, and only one that dotted keys made can be
added to by dotted keys.
-/

namespace ReporterBlocks.Toml

/-- How a table came about. -/
inductive Form where
  /-- By a header of its own, or it is the whole document. -/
  | opened
  /-- By the header of a table inside it. -/
  | implied
  /-- By a dotted key. -/
  | dotted
  deriving DecidableEq

inductive Node where
  | value (v : Value)
  | table (form : Form) (fields : List (String × Node))
  /-- An array of tables that headers open one by one. -/
  | tables (elements : List (List (String × Node)))

namespace Node

abbrev Fields := List (String × Node)

/-- Puts a node in the place of the one under a key, or at the end. -/
def replace (fields : Fields) (k : String) (n : Node) : Fields :=
  match fields with
  | [] => [(k, n)]
  | (k', n') :: rest => if k' = k then (k, n) :: rest else (k', n') :: replace rest k n

/-- Puts a node under a key at the end. -/
def moveLast (fields : Fields) (k : String) (n : Node) : Fields :=
  fields.filter (fun f => f.1 ≠ k) ++ [(k, n)]

/-- Changes the table at the end of a path, and makes the tables on the way that are not there. A
path through an array of tables goes through its last one. -/
def descend (dotted : Bool) : Key → (Form → Fields → Option (Form × Fields)) →
    Form → Fields → Option (Form × Fields)
  | [], change, form, fields => change form fields
  | k :: ks, change, form, fields =>
    let store (n : Node) : Form × Fields := (form, replace fields k n)
    match fields.lookup k with
    | none => do
      let (f, inner) ← descend dotted ks change (if dotted then .dotted else .implied) []
      some (store (.table f inner))
    | some (.value _) => none
    | some (.table f inner) => do
      if dotted && f = .opened then none
      else
        let (f, inner) ← descend dotted ks change f inner
        some (store (.table f inner))
    | some (.tables elements) => do
      let (_, inner) ← descend dotted ks change .opened (← elements.getLast?)
      some (store (.tables (elements.dropLast ++ [inner])))

/-- Adds a value under a key that is not there yet. Dotted keys add to tables that dotted keys have
made, plain keys to the others. -/
def assign (k : Key) (v : Value) (form : Form) (fields : Fields) : Option (Form × Fields) :=
  match k.getLast? with
  | none => none
  | some last =>
    let plain := k.dropLast.isEmpty
    descend true k.dropLast (fun f inner =>
      if (f = .dotted) = plain then none
      else if (inner.lookup last).isSome then none
      else some (f, replace inner last (.value v))) form fields

/-- Opens a table by its header. One that was only implied before takes its place there. -/
def openTable (k : Key) (form : Form) (fields : Fields) : Option (Form × Fields) :=
  match k.getLast? with
  | none => none
  | some last =>
    descend false k.dropLast (fun f inner =>
      match inner.lookup last with
      | none => some (f, replace inner last (.table .opened []))
      | some (.table .implied old) => some (f, moveLast inner last (.table .opened old))
      | some _ => none) form fields

/-- Opens one more table of an array. -/
def openElement (k : Key) (form : Form) (fields : Fields) : Option (Form × Fields) :=
  match k.getLast? with
  | none => none
  | some last =>
    descend false k.dropLast (fun f inner =>
      match inner.lookup last with
      | none => some (f, replace inner last (.tables [[]]))
      | some (.tables elements) => some (f, replace inner last (.tables (elements ++ [[]])))
      | some _ => none) form fields

mutual

def toValue : Node → Value
  | value v => v
  | table _ fields => .table (toTable fields)
  | tables elements => .array (toValues elements)

def toTable : List (String × Node) → Table
  | [] => []
  | (k, n) :: rest => (k, toValue n) :: toTable rest

def toValues : List (List (String × Node)) → List Value
  | [] => []
  | fields :: rest => .table (toTable fields) :: toValues rest

end

end Node

/-- The value of an inline table. -/
def assemble (as : List (Key × Value)) : Option Table := do
  let (_, fields) ← as.foldlM (fun (form, fields) (k, v) => Node.assign k v form fields)
    (Form.opened, ([] : Node.Fields))
  some (Node.toTable fields)

/-- The table built so far and the key of the header that counts. -/
structure Builder where
  here : Key
  form : Form
  fields : Node.Fields

def Builder.step (b : Builder) : Statement → Option Builder
  | .header k => do
    let (form, fields) ← Node.openTable k b.form b.fields
    some ⟨k, form, fields⟩
  | .arrayHeader k => do
    let (form, fields) ← Node.openElement k b.form b.fields
    some ⟨k, form, fields⟩
  | .assign k v => do
    let (form, fields) ← Node.descend false b.here (Node.assign k v) b.form b.fields
    some { b with form := form, fields := fields }

/-- Reads a document. A byte order mark before it is left out. -/
def parse (text : List Char) : Option Table := do
  let cs := match text with
    | '\ufeff' :: cs => cs
    | cs => cs
  let b ← (← statements assemble (cs.length + 1) cs).foldlM Builder.step ⟨[], .opened, []⟩
  some (Node.toTable b.fields)

end ReporterBlocks.Toml
