import CodeRepair.Config.Basic
import CodeRepair.Toml.Reader

/-!
# Reading configurations

A configuration file is a TOML document with a table for each part.  A setting that the file leaves
out keeps its default, and names that are no settings are passed over, if no number at them is too
great.  A part may also be an array of its settings in their order, of which surplus items are not
looked at; a date or time in place of a part leaves all its settings out.
-/

namespace CodeRepair.Config

/-- The settings of a part, by name or by place. -/
abbrev Fields := Text → Nat → Option Toml

/-- The settings in a value, if it is a table, an array, a date or a time. -/
def fields? : Toml → Option Fields
  | .table entries =>
    if Toml.entriesBounded entries then some fun name _ ↦ Toml.find? name entries else none
  | .array items => some fun _ place ↦ items[place]?
  | .moment => some fun _ _ ↦ none
  | _ => none

/-- The value of a setting, or its default where it is left out; `none` if the value is not of its
kind. -/
def setting? {α : Type} (read? : Toml → Option α) (default : α) : Option Toml → Option α
  | none => some default
  | some value => read? value

/-- A text. -/
def text? : Toml → Option Text
  | .string value => some value
  | _ => none

/-- A list of texts. -/
def texts? : Toml → Option (List Text)
  | .array items => items.mapM text?
  | _ => none

/-- A natural number of 64 bits. -/
def natural? : Toml → Option UInt64
  | .integer n => if 0 ≤ n ∧ n < (Nat.pow 2 64 : Nat) then some (UInt64.ofNat n.toNat) else none
  | _ => none

/-- A number of 32 bits, from a real or from an integer of 64 bits. -/
def number? : Toml → Option Decimal.Single
  | .real value => if value.isBounded then some value.single else none
  | .integer n => if -(Nat.pow 2 63 : Nat) ≤ n ∧ n < (Nat.pow 2 64 : Nat) then some (.ofInt n) else none
  | _ => none

/-- The analysis settings of a file. -/
def analysis? (part : Toml) : Option Analysis := do
  let fields ← fields? part
  let default : Analysis := {}
  return {
    command := ← setting? texts? default.command (fields "command".toList 0)
    timeoutSecs := ← setting? natural? default.timeoutSecs (fields "timeout_secs".toList 1)
    outputLimitBytes :=
      ← setting? natural? default.outputLimitBytes (fields "output_limit_bytes".toList 2) }

/-- The model settings of a file. -/
def model? (part : Toml) : Option Model := do
  let fields ← fields? part
  let default : Model := {}
  return {
    endpoint := ← setting? text? default.endpoint (fields "endpoint".toList 0)
    model := ← setting? text? default.model (fields "model".toList 1)
    apiKeyEnv := ← setting? text? default.apiKeyEnv (fields "api_key_env".toList 2)
    temperature := ← setting? number? default.temperature (fields "temperature".toList 3)
    timeoutSecs := ← setting? (fun value ↦ (natural? value).map some) default.timeoutSecs
      (fields "timeout_secs".toList 4) }

/-- The watch settings of a file. -/
def watch? (part : Toml) : Option Watch := do
  let fields ← fields? part
  let default : Watch := {}
  return {
    pollIntervalMs :=
      ← setting? natural? default.pollIntervalMs (fields "poll_interval_ms".toList 0) }

/-- The names of the parts. -/
def partNames : List Text :=
  ["analysis".toList, "model".toList, "watch".toList]

/-- The configuration in a document. -/
def ofEntries? (entries : Toml.Entries) : Option Config := do
  if !Toml.entriesBounded (entries.filter fun entry ↦ !partNames.contains entry.1) then none
  return {
    analysis := ← setting? analysis? {} (Toml.find? "analysis".toList entries)
    model := ← setting? model? {} (Toml.find? "model".toList entries)
    watch := ← setting? watch? {} (Toml.find? "watch".toList entries) }

/-- The configuration that a text holds, valid or not. -/
def read? (text : Text) : Option Config :=
  (Toml.read? text).bind ofEntries?

end CodeRepair.Config
