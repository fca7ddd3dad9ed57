import CodeRepair.Finding.Diagnostic
import CodeRepair.Proofs.Json.Member

/-!
# Listings in JSON are read line by line

Each listing in JSON is one line, whatever characters the path and the messages hold, so a reader may
split what was printed at the line feeds and read each line alone.  What such a reader gets is
described here without the printer: it looks for the members of objects by their names.
-/

namespace CodeRepair

/-! ## Reading a listing -/

/-- A diagnostic as a reader of a listing sees it: the severity is a word. -/
structure ListedDiagnostic where
  range : Range
  message : Text
  severity : Text
  deriving DecidableEq, Repr

/-- What a listing is to tell about a diagnostic. -/
def Diagnostic.listed (diagnostic : Diagnostic) : ListedDiagnostic :=
  ⟨diagnostic.range, diagnostic.message, diagnostic.severity.name⟩

namespace Json

/-- The place that a value describes. -/
def toPosition? (value : Json) : Option Position := do
  let line ← (← value.member? "line").toUInt32?
  let character ← (← value.member? "character").toUInt32?
  return ⟨line, character⟩

/-- The diagnostic that a value describes. -/
def toDiagnostic? (value : Json) : Option ListedDiagnostic := do
  let range ← value.member? "range"
  let start ← (← range.member? "start").toPosition?
  let stop ← (← range.member? "end").toPosition?
  let message ← (← value.member? "message").toText?
  let severity ← (← value.member? "severity").toText?
  return ⟨⟨start, stop⟩, message, severity⟩

/-- The path and the diagnostics that a value lists. -/
def toListing? (value : Json) : Option (Path × List ListedDiagnostic) := do
  let path ← (← value.member? "document").toText?
  let items ← (← value.member? "diagnostics").toItems?
  let diagnostics ← items.mapM toDiagnostic?
  return (path, diagnostics)

end Json

/-- The listing that one line of JSON holds. -/
def readListing? (line : Text) : Option (Path × List ListedDiagnostic) :=
  (Json.read? line).bind Json.toListing?

namespace Diagnostic

/-! ## One listing -/

/-- The value that a listing writes. -/
def listingValue (document : DocumentId) (diagnostics : List Diagnostic) : Json :=
  .object [jsonField "document" (.ofText document.path),
    jsonField "diagnostics" (.array (diagnostics.map toJson))]

theorem jsonListing_eq (document : DocumentId) (diagnostics : List Diagnostic) :
    jsonListing document diagnostics = (listingValue document diagnostics).write ++ ['\n'] :=
  rfl

theorem isWritable_jsonOfPosition (position : Position) : (jsonOfPosition position).IsWritable := by
  let fields := [("line", Json.ofNat position.line.toNat),
    ("character", Json.ofNat position.character.toNat)]
  have hfields : ∀ field ∈ fields, field.2.IsWritable := by
    simp [fields, Json.isWritable_ofNat]
  exact Json.isWritable_members hfields

theorem isWritable_toJson (diagnostic : Diagnostic) : diagnostic.toJson.IsWritable := by
  let ends := [("start", jsonOfPosition diagnostic.range.start),
    ("end", jsonOfPosition diagnostic.range.stop)]
  have hends : ∀ field ∈ ends, field.2.IsWritable := by
    simp [ends, isWritable_jsonOfPosition]
  let range := Json.object (ends.map fun field ↦ jsonField field.1 field.2)
  have hrange : range.IsWritable := Json.isWritable_members hends
  let fields := [("range", range), ("message", Json.ofText diagnostic.message),
    ("severity", Json.ofText diagnostic.severity.name)]
  have hfields : ∀ field ∈ fields, field.2.IsWritable := by
    simp [fields, hrange, Json.isWritable_ofText]
  exact Json.isWritable_members hfields

theorem isWritable_listingValue (document : DocumentId) (diagnostics : List Diagnostic) :
    (listingValue document diagnostics).IsWritable := by
  have hitems : (Json.array (diagnostics.map toJson)).IsWritable := by
    refine .array fun item hitem ↦ ?_
    obtain ⟨diagnostic, -, rfl⟩ := List.mem_map.1 hitem
    exact isWritable_toJson diagnostic
  let fields := [("document", Json.ofText document.path),
    ("diagnostics", Json.array (diagnostics.map toJson))]
  have hfields : ∀ field ∈ fields, field.2.IsWritable := by
    simp [fields, hitems, Json.isWritable_ofText]
  exact Json.isWritable_members hfields

/-! ### What is read back -/

theorem toPosition?_jsonOfPosition (position : Position) :
    (jsonOfPosition position).toPosition? = some position := by
  simp only [Json.toPosition?, jsonOfPosition, jsonField, Json.member?, Json.fieldsOf_cons, Json.fieldsOf_nil]
  simp

theorem toDiagnostic?_toJson (diagnostic : Diagnostic) :
    diagnostic.toJson.toDiagnostic? = some diagnostic.listed := by
  simp only [Json.toDiagnostic?, toJson, jsonField, Json.member?, Json.fieldsOf_cons, Json.fieldsOf_nil,
    String.reduceEq, if_true, if_false, Option.bind_eq_bind, Option.bind_some]
  simp [toPosition?_jsonOfPosition, listed]

theorem toListing?_listingValue (document : DocumentId) (diagnostics : List Diagnostic) :
    (listingValue document diagnostics).toListing? =
      some (document.path, diagnostics.map listed) := by
  have hitems : (diagnostics.map toJson).mapM Json.toDiagnostic? = some (diagnostics.map listed) :=
    Json.mapM_map_eq_some toDiagnostic?_toJson diagnostics
  simp only [Json.toListing?, listingValue, jsonField, Json.member?, Json.fieldsOf_cons, Json.fieldsOf_nil]
  simp [Json.toItems?, hitems]

theorem readListing?_write (document : DocumentId) (diagnostics : List Diagnostic) :
    readListing? (listingValue document diagnostics).write =
      some (document.path, diagnostics.map listed) := by
  rw [readListing?, (isWritable_listingValue document diagnostics).read?_write, Option.bind_some,
    toListing?_listingValue]

end Diagnostic

/-! ## Listings in a row -/

namespace ListingFormat

/-- What is printed when sets of diagnostics are listed one after another. -/
def writeAll (format : ListingFormat) (sets : List (DocumentId × List Diagnostic)) : Text :=
  sets.flatMap fun set ↦ format.write set.1 set.2

theorem writeAll_json_cons (set : DocumentId × List Diagnostic)
    (sets : List (DocumentId × List Diagnostic)) :
    json.writeAll (set :: sets) =
      (Diagnostic.listingValue set.1 set.2).write ++ '\n' :: json.writeAll sets := by
  simp [writeAll, write, Diagnostic.jsonListing_eq]

/-- Between the line feeds stand the values that were listed, and behind the last one nothing. -/
theorem pieces_writeAll_json (sets : List (DocumentId × List Diagnostic)) :
    Text.pieces '\n' (json.writeAll sets) =
      sets.map (fun set ↦ (Diagnostic.listingValue set.1 set.2).write) ++ [[]] := by
  induction sets with
  | nil => rfl
  | cons set sets ih =>
    have hline := (Diagnostic.isWritable_listingValue set.1 set.2).feed_not_mem
    rw [writeAll_json_cons, Text.pieces_append_cons, Text.pieces_of_not_mem hline, ih]
    rfl

theorem count_feed_writeAll_json (sets : List (DocumentId × List Diagnostic)) :
    (json.writeAll sets).count '\n' = sets.length := by
  induction sets with
  | nil => rfl
  | cons set sets ih =>
    have hline := (Diagnostic.isWritable_listingValue set.1 set.2).feed_not_mem
    rw [writeAll_json_cons, List.count_append, List.count_eq_zero.2 hline, List.count_cons_self, ih,
      List.length_cons, Nat.zero_add]

theorem endsInLineFeed_writeAll_json (sets : List (DocumentId × List Diagnostic)) :
    json.writeAll sets = [] ∨ Text.endsInLineFeed (json.writeAll sets) = true := by
  rcases List.eq_nil_or_concat sets with rfl | ⟨front, last, rfl⟩
  · exact .inl rfl
  · right
    simp [writeAll, write, Diagnostic.jsonListing_eq, Text.endsInLineFeed]

/-- Listings in JSON are printed one on each line, the last line feed included, and each line is read
as the path and the diagnostics that were listed. -/
theorem json_lines_read_back (sets : List (DocumentId × List Diagnostic)) :
    let output := json.writeAll sets
    output.count '\n' = sets.length ∧
    (output = [] ∨ Text.endsInLineFeed output = true) ∧
    ∃ lines, Text.pieces '\n' output = lines ++ [[]] ∧
      lines.map readListing? =
        sets.map fun set ↦ some (set.1.path, set.2.map Diagnostic.listed) := by
  intro output
  refine ⟨count_feed_writeAll_json sets, endsInLineFeed_writeAll_json sets, _,
    pieces_writeAll_json sets, ?_⟩
  simp [Function.comp_def, Diagnostic.readListing?_write]

end ListingFormat

end CodeRepair
