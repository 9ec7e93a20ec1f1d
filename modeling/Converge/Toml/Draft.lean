set_option autoImplicit false

namespace Converge

inductive Toml where
  | text (s : String)
  | integer (n : Int)
  | float (spelling : String)
  | boolean (b : Bool)
  | datetime (spelling : String)
  | array (items : List Toml)
  | table (entries : List (String × Toml))

end Converge

namespace Converge.Toml

inductive Origin where
  | header
  -- Stood on the way to the table of a header.
  | passage
  | dotted
  deriving DecidableEq, Repr

inductive Draft where
  | value (v : Toml)
  | table (origin : Origin) (entries : List (String × Draft))
  -- An array of tables, the open one first.
  | tables (elements : List (List (String × Draft)))

abbrev Entries := List (String × Draft)

namespace Draft

def put (entries : Entries) (key : String) (d : Draft) : Entries :=
  if entries.any (·.1 == key) then
    entries.map fun entry => if entry.1 == key then (key, d) else entry
  else entries ++ [(key, d)]

-- What a change finds and leaves: the origin of a table and its entries.
abbrev Change := Origin → Entries → Option (Origin × Entries)

/-- Changes the table at a path. Missing tables on the way get the given origin; a dotted key does
not pass through a table with a header of its own. -/
def changeAt (made : Origin) (change : Change) : List String → Change
  | [], origin, entries => change origin entries
  | key :: path, origin, entries =>
    match entries.lookup key with
    | none => do
      let (o, es) ← changeAt made change path made []
      some (origin, put entries key (.table o es))
    | some (.value _) => none
    | some (.tables []) => none
    | some (.tables (element :: earlier)) => do
      let (_, es) ← changeAt made change path .header element
      some (origin, put entries key (.tables (es :: earlier)))
    | some (.table o es) =>
      if made = .dotted && o = .header then none
      else do
        let (o, es) ← changeAt made change path o es
        some (origin, put entries key (.table o es))

/-- Adds a key that must be new. After a dotted path only a table of dotted keys takes it. -/
def assign (viaDots : Bool) (key : String) (v : Toml) : Change := fun origin entries =>
  if viaDots != (origin == .dotted) || entries.any (·.1 == key) then none
  else some (origin, entries ++ [(key, .value v)])

def assignAt (path : List String) (key : String) (v : Toml) : Change :=
  changeAt .dotted (assign (!path.isEmpty) key v) path

def openTable (key : String) : Change := fun origin entries =>
  match entries.lookup key with
  | none => some (origin, put entries key (.table .header []))
  | some (.table .passage es) => some (origin, put entries key (.table .header es))
  | some _ => none

def openElement (key : String) : Change := fun origin entries =>
  match entries.lookup key with
  | none => some (origin, put entries key (.tables [[]]))
  | some (.tables elements) => some (origin, put entries key (.tables ([] :: elements)))
  | some _ => none

mutual

def finish : Draft → Toml
  | .value v => v
  | .table _ entries => .table (finishEntries entries)
  | .tables elements => .array (finishElements elements).reverse

def finishEntries : List (String × Draft) → List (String × Toml)
  | [] => []
  | (key, d) :: rest => (key, finish d) :: finishEntries rest

def finishElements : List (List (String × Draft)) → List Toml
  | [] => []
  | entries :: rest => .table (finishEntries entries) :: finishElements rest

end

end Draft

/-- One line of a document that says something. -/
inductive Statement where
  | header (path : List String) (key : String)
  | element (path : List String) (key : String)
  | assign (path : List String) (key : String) (v : Toml)

/-- A document so far: its entries and the path of the open table. -/
structure Document where
  entries : Entries := []
  current : List String := []

def Document.add (doc : Document) : Statement → Option Document
  | .header path key => do
    let (_, entries) ← Draft.changeAt .passage (Draft.openTable key) path .header doc.entries
    some ⟨entries, path ++ [key]⟩
  | .element path key => do
    let (_, entries) ← Draft.changeAt .passage (Draft.openElement key) path .header doc.entries
    some ⟨entries, path ++ [key]⟩
  | .assign path key v => do
    let (_, entries) ←
      Draft.changeAt .passage (Draft.assignAt path key v) doc.current .header doc.entries
    some { doc with entries := entries }

def Document.finish (doc : Document) : Toml := .table (Draft.finishEntries doc.entries)

-- The table that one line of keys and values makes.
def ofAssignments (items : List (List String × String × Toml)) : Option Toml := do
  let (_, entries) ← items.foldlM (fun (state : Origin × Entries) item =>
    Draft.assignAt item.1 item.2.1 item.2.2 state.1 state.2) (.header, [])
  some (.table (Draft.finishEntries entries))

end Converge.Toml
