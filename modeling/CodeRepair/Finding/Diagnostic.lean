import CodeRepair.Document
import CodeRepair.Finding.Record
import CodeRepair.Json.Printer

/-!
# Diagnostics

A diagnostic is a finding as it is shown beside a document: a place counted from zero, a message and
a severity.  The diagnostics of a document are listed as text or as one line of JSON.
-/

namespace CodeRepair

/-- A place in a document. -/
structure Position where
  /-- The line, counted from zero. -/
  line : UInt32
  character : UInt32
  deriving DecidableEq, Repr

/-- A stretch of a document. -/
structure Range where
  start : Position
  stop : Position
  deriving DecidableEq, Repr

/-- A finding as it is shown beside a document. -/
structure Diagnostic where
  range : Range
  message : Text
  severity : Severity
  deriving DecidableEq, Repr

namespace Diagnostic

/-- A line counted from one as a line counted from zero; there is no line before the first. -/
def lineOf (line : UInt32) : UInt32 :=
  if line = 0 then 0 else line - 1

/-- The diagnostic of a finding: the empty range at its place. -/
def ofRecord (record : Record) : Diagnostic :=
  let place : Position := ⟨lineOf record.line, record.column⟩
  ⟨⟨place, place⟩, record.message, record.severity⟩

/-! ## Listings -/

/-- One line of a text listing. -/
def textLine (document : Text) (diagnostic : Diagnostic) : Text :=
  document ++ [':'] ++ Text.ofNat (diagnostic.range.start.line + 1).toNat ++ [':'] ++
    Text.ofNat diagnostic.range.start.character.toNat ++ ": ".toList ++ diagnostic.severity.name ++
    ": ".toList ++ diagnostic.message ++ ['\n']

/-- The text listing of the diagnostics of a document. -/
def listing (document : DocumentId) (diagnostics : List Diagnostic) : Text :=
  if diagnostics.isEmpty then document.path ++ ": no findings\n".toList
  else diagnostics.flatMap (textLine document.path)

/-- A field of a JSON object. -/
def jsonField (name : String) (value : Json) : List Nat × Json :=
  (Json.points name.toList, value)

/-- A place as a JSON value. -/
def jsonOfPosition (position : Position) : Json :=
  .object [jsonField "line" (.ofNat position.line.toNat),
    jsonField "character" (.ofNat position.character.toNat)]

/-- A diagnostic as a JSON value. -/
def toJson (diagnostic : Diagnostic) : Json :=
  .object [jsonField "range" (.object [jsonField "start" (jsonOfPosition diagnostic.range.start),
      jsonField "end" (jsonOfPosition diagnostic.range.stop)]),
    jsonField "message" (.ofText diagnostic.message),
    jsonField "severity" (.ofText diagnostic.severity.name)]

/-- The diagnostics of a document as one line of JSON. -/
def jsonListing (document : DocumentId) (diagnostics : List Diagnostic) : Text :=
  (Json.object [jsonField "document" (.ofText document.path),
    jsonField "diagnostics" (.array (diagnostics.map toJson))]).write ++ ['\n']

end Diagnostic

/-- The two forms of a listing. -/
inductive ListingFormat
  | text
  | json
  deriving DecidableEq, Repr

namespace ListingFormat

/-- The diagnostics of a document in a form. -/
def write : ListingFormat → DocumentId → List Diagnostic → Text
  | text => Diagnostic.listing
  | json => Diagnostic.jsonListing

end ListingFormat

end CodeRepair
