import CodeRepair.Toml.Basic

/-!
# Tables in the making

A table can be named by a header of its own, by the header of a table inside it, or by a dotted key.
How it was named decides what may still be added: a header takes up only a table that merely stood
on the way of another header, and a dotted key adds only to tables that dotted keys made.  Values,
also tables and arrays between brackets, are closed as soon as they are written.
-/

namespace CodeRepair.Toml

/-- How a table came to be. -/
inductive Origin
  /-- By its own header, or as the document. -/
  | header
  /-- On the way of the header of another table. -/
  | passed
  /-- By a dotted key. -/
  | dotted
  deriving DecidableEq, Repr

/-- What stands at a key while a document is read. -/
inductive Node
  | value (value : Toml)
  | table (origin : Origin) (nodes : List (Text × Node))
  /-- An array of tables with headers, the last one first. -/
  | tables (items : List (List (Text × Node)))
  deriving Repr

namespace Node

/-- The keys of a table with what stands there. -/
abbrev Nodes := List (Text × Node)

/-- A table in which one key is changed, or added at the end. -/
def alter (key : Text) (change : Option Node → Option Node) : Nodes → Option Nodes
  | [] => (change none).map fun node ↦ [(key, node)]
  | entry :: rest =>
    if entry.1 = key then (change (some entry.2)).map fun node ↦ (key, node) :: rest
    else (alter key change rest).map fun rest ↦ entry :: rest

/-- A table in which the table at the end of a path is changed.  Missing tables on the way are made
with the given origin, and a dotted path does not pass a table with a header. -/
def within (made : Origin) (change : Origin → Nodes → Option Nodes) :
    List Text → Origin → Nodes → Option Nodes
  | [], origin, nodes => change origin nodes
  | key :: path, _, nodes =>
    alter key (fun
      | none => (within made change path made []).map (table made)
      | some (table origin inner) =>
        if made = .dotted && origin = .header then none
        else (within made change path origin inner).map (table origin)
      | some (tables (last :: others)) =>
        (within made change path .header last).map fun last ↦ tables (last :: others)
      | some _ => none) nodes

/-- A table with one more value, at a path that may be dotted. -/
def addValue (path : List Text) (added : Toml) (nodes : Nodes) : Option Nodes :=
  match path.getLast? with
  | none => none
  | some key =>
    within .dotted (fun origin nodes ↦
      if path.length = 1 || origin = .dotted then
        alter key (fun
          | none => some (value added)
          | some _ => none) nodes
      else none) path.dropLast .header nodes

/-- A document with a header for the table at a path. -/
def addTable (path : List Text) (nodes : Nodes) : Option Nodes :=
  match path.getLast? with
  | none => none
  | some key =>
    within .passed (fun _ nodes ↦
      alter key (fun
        | none => some (table .header [])
        | some (table .passed inner) => some (table .header inner)
        | some _ => none) nodes) path.dropLast .header nodes

/-- A document with a header for one more item of the array of tables at a path. -/
def addItem (path : List Text) (nodes : Nodes) : Option Nodes :=
  match path.getLast? with
  | none => none
  | some key =>
    within .passed (fun _ nodes ↦
      alter key (fun
        | none => some (tables [[]])
        | some (tables items) => some (tables ([] :: items))
        | some _ => none) nodes) path.dropLast .header nodes

/-! ## Finished values -/

mutual

/-- What stands at a key, as a value. -/
def close : Node → Toml
  | value closed => closed
  | table _ nodes => .table (closeAll nodes)
  | tables items => .array (closeItems items).reverse

/-- The entries of a table, as values. -/
def closeAll : List (Text × Node) → Entries
  | [] => []
  | (key, node) :: nodes => (key, close node) :: closeAll nodes

/-- The items of an array of tables, as values. -/
def closeItems : List (List (Text × Node)) → List Toml
  | [] => []
  | nodes :: items => .table (closeAll nodes) :: closeItems items

end

end Node

/-! ## Statements -/

/-- A line of a document that says something. -/
inductive Statement
  | entry (path : List Text) (value : Toml)
  | header (path : List Text)
  | item (path : List Text)
  deriving Repr

/-- A document in the making, with the path of the table that entries go to. -/
structure Outline where
  nodes : Node.Nodes := []
  current : List Text := []

namespace Outline

/-- A document after one more statement. -/
def add (outline : Outline) : Statement → Option Outline
  | .entry path value =>
    (Node.within .passed (fun _ nodes ↦ Node.addValue path value nodes) outline.current .header
      outline.nodes).map fun nodes ↦ ⟨nodes, outline.current⟩
  | .header path => (Node.addTable path outline.nodes).map fun nodes ↦ ⟨nodes, path⟩
  | .item path => (Node.addItem path outline.nodes).map fun nodes ↦ ⟨nodes, path⟩

/-- The document of a list of statements, if they agree with each other. -/
def build (statements : List Statement) : Option Entries :=
  (statements.foldlM add ({} : Outline)).map fun outline ↦ Node.closeAll outline.nodes

end Outline

/-- The table of entries between braces. -/
def inlineTable? (entries : List (List Text × Toml)) : Option Toml :=
  (entries.foldlM (fun nodes entry ↦ Node.addValue entry.1 entry.2 nodes) []).map fun nodes ↦
    .table (Node.closeAll nodes)

end CodeRepair.Toml
