import CodeRepair.Finding.Diagnostic

/-!
# Published diagnostics

A collection keeps one list of diagnostics for each document.  Publishing replaces the list of a
document as a whole and keeps the spelling under which the document first came in.
-/

namespace CodeRepair

/-- The diagnostics of each document, in the order in which the documents came in. -/
structure Collection where
  sets : List (DocumentId × List Diagnostic) := []
  deriving DecidableEq, Repr

namespace Collection

/-- The sets with a new list for a document. -/
def replaceIn (document : DocumentId) (diagnostics : List Diagnostic) :
    List (DocumentId × List Diagnostic) → List (DocumentId × List Diagnostic)
  | [] => [(document, diagnostics)]
  | set :: sets =>
    if set.1.same document then (set.1, diagnostics) :: sets
    else set :: replaceIn document diagnostics sets

/-- The collection with a new list for a document. -/
def replace (collection : Collection) (document : DocumentId) (diagnostics : List Diagnostic) :
    Collection :=
  ⟨replaceIn document diagnostics collection.sets⟩

/-- The diagnostics of a document, none if nothing was published for it. -/
def get (collection : Collection) (document : DocumentId) : List Diagnostic :=
  match collection.sets.find? fun set ↦ set.1.same document with
  | some set => set.2
  | none => []

/-- A document and its diagnostics put in its place among others. -/
def insertSet (set : DocumentId × List Diagnostic) :
    List (DocumentId × List Diagnostic) → List (DocumentId × List Diagnostic)
  | [] => [set]
  | other :: rest =>
    if set.1.compare other.1 = .lt then set :: other :: rest else other :: insertSet set rest

/-- The documents and their diagnostics in the order of the documents. -/
def sorted (collection : Collection) : List (DocumentId × List Diagnostic) :=
  collection.sets.foldl (fun sorted set ↦ insertSet set sorted) []

/-- The documents in order. -/
def documents (collection : Collection) : List DocumentId :=
  collection.sorted.map Prod.fst

/-- Publish findings for a document, or for none. -/
def publish (collection : Collection) (document : Option DocumentId) (records : List Record) :
    Collection :=
  match document with
  | some document => collection.replace document (records.map .ofRecord)
  | none => collection

end Collection

end CodeRepair
