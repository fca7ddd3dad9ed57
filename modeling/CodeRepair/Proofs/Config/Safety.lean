import CodeRepair.Execution.Command
import CodeRepair.Proofs.Chat.Request
import CodeRepair.Proofs.Config.Stored
import CodeRepair.Proofs.Decimal.Range
import CodeRepair.Proofs.Repair.Document
import CodeRepair.Proofs.Text.Trimming

/-!
# Loaded configurations are safe to run with

Whatever a configuration file holds, a configuration that is loaded from it is sound: each of its
settings is in its range.  The program relies on that without a check of its own when it takes the
command apart, sets time limits and writes the temperature into requests.  Conversely a sound
configuration is never refused, so being sound is all that validity asks for.
-/

namespace CodeRepair

/-! ## Commands put together by places -/

namespace Execution

/-- The words from a place on, if there are so many words before it. -/
def wordsFrom? (place : Nat) (words : List Text) : Option (List Text) :=
  if place ≤ words.length then some (words.drop place) else none

/-- The command that analyzes a document, put together from the configured words by their places.  The
program is the first of them, and its arguments begin at the second.  There is no command if one of
these places is out of range. -/
def Command.assembled? (settings : Config.Analysis) (document : Document) : Option Command := do
  let program ← settings.command[0]?
  let arguments ← wordsFrom? 1 settings.command
  return {
    words := program :: (arguments ++ [document.id.path])
    directory := document.id.path.parent?
    input := Text.encode document.text
    limit := settings.timeoutMs }

/-- The places are in range if there is a word at all, and only then. -/
theorem Command.assembled?_eq (settings : Config.Analysis) (document : Document) :
    assembled? settings document =
      if settings.command = [] then none else some (ofDocument settings document) := by
  obtain ⟨command, timeoutSecs, outputLimitBytes⟩ := settings
  cases command with
  | nil => rfl
  | cons program arguments => simp [assembled?, wordsFrom?, ofDocument, Config.Analysis.timeoutMs]

/-- A failed analysis is told by the program and the cause. -/
theorem exists_cause_of_answerOf {settings : Config.Analysis} {events : List Event} {failure : Failure}
    (h : (answerOf settings events).output = .error failure) :
    ∃ cause, failure = ["run ".toList ++ settings.command.head?.getD [], cause] := by
  simp only [answerOf] at h
  split at h
  · cases h
  · next cause hcollect =>
    cases h
    exact ⟨cause, rfl⟩

end Execution

namespace Config

variable {files : FileSystem} {path : Path} {config : Config}

/-! ## Sound configurations -/

/-- Each setting of a configuration is in its range. -/
structure IsSound (config : Config) : Prop where
  /-- There is a command, and its first word is not blank. -/
  command : ∃ program arguments, config.analysis.command = program :: arguments ∧ ¬ Text.IsBlank program
  analysisTimeout : 0 < config.analysis.timeoutSecs
  outputLimit : 0 < config.analysis.outputLimitBytes
  /-- The endpoint begins as a web address, apart from the white space around it. -/
  endpoint : "http://".toList <+: Text.trim config.model.endpoint ∨
    "https://".toList <+: Text.trim config.model.endpoint
  model : ¬ Text.IsBlank config.model.model
  apiKeyEnv : ¬ Text.IsBlank config.model.apiKeyEnv
  /-- The temperature is a rational number from zero to two. -/
  temperature : ∃ value, config.model.temperature.value? = some value ∧ 0 ≤ value ∧ value ≤ 2
  /-- An answer of the model may be waited for without a limit. -/
  modelTimeout : ∀ seconds, config.model.timeoutSecs = some seconds → 0 < seconds
  pollInterval : 0 < config.watch.pollIntervalMs

/-- A number of seconds, bytes or milliseconds is in its range if it is not zero. -/
theorem beq_zero_eq_false_iff {n : UInt64} : (n == 0) = false ↔ 0 < n := by
  rw [beq_eq_false_iff_ne, UInt64.pos_iff_ne_zero]

theorem isWebAddress_iff {endpoint : Text} : isWebAddress endpoint = true ↔
    "http://".toList <+: Text.trim endpoint ∨ "https://".toList <+: Text.trim endpoint := by
  rw [isWebAddress, Bool.or_eq_true, Text.startsWith_iff, Text.startsWith_iff]

theorem isIn_command_eq_false_iff : Fault.command.isIn config = false ↔
    ∃ program arguments, config.analysis.command = program :: arguments ∧ ¬ Text.IsBlank program := by
  rw [Fault.isIn, Text.isAllBlank_eq_false_iff]
  cases hcommand : config.analysis.command with
  | nil => simp [Text.IsBlank]
  | cons program arguments => simp

theorem isIn_modelTimeout_eq_false_iff : Fault.modelTimeout.isIn config = false ↔
    ∀ seconds, config.model.timeoutSecs = some seconds → 0 < seconds := by
  rw [Fault.isIn]
  cases config.model.timeoutSecs with
  | none => simp
  | some seconds => simp [UInt64.pos_iff_ne_zero]

/-- A configuration has no fault if it is sound, and only then. -/
theorem fault?_eq_none_iff_isSound : config.fault? = none ↔ config.IsSound := by
  rw [fault?_eq_none_iff]
  constructor
  · intro h
    exact {
      command := isIn_command_eq_false_iff.1 (h .command)
      analysisTimeout := beq_zero_eq_false_iff.1 (h .analysisTimeout)
      outputLimit := beq_zero_eq_false_iff.1 (h .outputLimit)
      endpoint := isWebAddress_iff.1 (by simpa [Fault.isIn] using h .endpoint)
      model := Text.isAllBlank_eq_false_iff.1 (h .model)
      apiKeyEnv := Text.isAllBlank_eq_false_iff.1 (h .apiKeyEnv)
      temperature := Decimal.Single.isWithin_iff.1 (by simpa [Fault.isIn] using h .temperature)
      modelTimeout := isIn_modelTimeout_eq_false_iff.1 (h .modelTimeout)
      pollInterval := beq_zero_eq_false_iff.1 (h .pollInterval) }
  · intro h fault
    cases fault with
    | command => exact isIn_command_eq_false_iff.2 h.command
    | analysisTimeout => exact beq_zero_eq_false_iff.2 h.analysisTimeout
    | outputLimit => exact beq_zero_eq_false_iff.2 h.outputLimit
    | endpoint => simpa [Fault.isIn] using isWebAddress_iff.2 h.endpoint
    | model => exact Text.isAllBlank_eq_false_iff.2 h.model
    | apiKeyEnv => exact Text.isAllBlank_eq_false_iff.2 h.apiKeyEnv
    | temperature => simpa [Fault.isIn] using Decimal.Single.isWithin_iff.2 h.temperature
    | modelTimeout => exact isIn_modelTimeout_eq_false_iff.2 h.modelTimeout
    | pollInterval => exact beq_zero_eq_false_iff.2 h.pollInterval

/-! ## Running with a sound configuration -/

/-- What the program relies on when it runs with a configuration. -/
structure RunsSafely (config : Config) : Prop where
  /-- No document is analyzed by a command with a place out of range, -/
  command : ∀ document, Execution.Command.assembled? config.analysis document =
    some (.ofDocument config.analysis document)
  /-- each analysis has some time, -/
  limit : ∀ document, 0 < (Execution.Command.ofDocument config.analysis document).limit
  /-- and there is a program that a failed analysis can name. -/
  failure : ∀ events failure, (Execution.answerOf config.analysis events).output = .error failure →
    ∃ program cause, config.analysis.command[0]? = some program ∧
      failure = ["run ".toList ++ program, cause]
  /-- A request at the temperature of the configuration carries a number for it, whatever model it names
  and whatever its messages hold, -/
  body : ∀ request : Chat.Request, request.temperature = config.model.temperature →
    request.CarriesNumber
  /-- and so does each request of a repair, whatever the stages are and however the model answers. -/
  repair : ∀ {σ τ : Type} (analyzer : Option (Analyzer σ)) (world : σ) (model : CodeRepair.Model τ)
    (state : τ) (document : Document) (stages : List Stage), ∀ request ∈ (Repair.document analyzer world
      model state document stages ⟨config.model.model, config.model.temperature⟩).journal.requests,
    request.CarriesNumber

namespace IsSound

variable (h : config.IsSound)
include h

theorem isFinite : config.model.temperature.isFinite = true :=
  isFinite_of_fault? (fault?_eq_none_iff_isSound.2 h)

theorem carriesNumber {request : Chat.Request} (hrequest : request.temperature = config.model.temperature) :
    request.CarriesNumber := by
  rw [Chat.Request.carriesNumber_iff, hrequest]
  exact h.isFinite

theorem runsSafely : config.RunsSafely where
  command document := by
    obtain ⟨program, arguments, hcommand, -⟩ := h.command
    rw [Execution.Command.assembled?_eq, hcommand, if_neg (List.cons_ne_nil program arguments)]
  limit document := by
    have htimeout : 0 < config.analysis.timeoutSecs.toNat := h.analysisTimeout
    exact Nat.mul_pos htimeout (by decide)
  failure events failure hfailure := by
    obtain ⟨program, arguments, hcommand, -⟩ := h.command
    obtain ⟨cause, rfl⟩ := Execution.exists_cause_of_answerOf hfailure
    exact ⟨program, cause, by rw [hcommand]; rfl, by rw [hcommand]; rfl⟩
  body request := h.carriesNumber
  repair analyzer world model state document stages request hrequest :=
    h.carriesNumber (Repair.settings_of_mem_requests hrequest).2

end IsSound

/-! ## Loading -/

/-- Only valid configurations are loaded. -/
theorem fault?_of_load (h : load files path = .ok config) : config.fault? = none := by
  unfold load at h
  split at h
  · split at h
    · cases h
    · split at h
      · cases h
      · obtain ⟨hvalid, rfl⟩ := checked_eq_ok_iff.1 h
        exact hvalid
  · obtain ⟨hvalid, rfl⟩ := checked_eq_ok_iff.1 h
    exact hvalid

/-- Whatever stands at a path, a configuration that is loaded from it is sound, and the program runs
safely with it.  Where nothing stands there, the default configuration is loaded.  Where a text stands
there that holds a configuration, it is loaded if it is sound, and only then. -/
theorem loaded_configurations_safe (files : FileSystem) (path : Path) :
    (∀ config, load files path = .ok config → config.IsSound ∧ config.RunsSafely) ∧
    (files.contains path = false → load files path = .ok {}) ∧
    ∀ text config, files.readText path = .ok text → read? text = some config →
      (load files path = .ok config ↔ config.IsSound) := by
  refine ⟨fun config hload ↦ ?_, load_of_not_contains, fun text config htext hconfig ↦ ?_⟩
  · have hsound : config.IsSound := fault?_eq_none_iff_isSound.1 (fault?_of_load hload)
    exact ⟨hsound, hsound.runsSafely⟩
  · rw [load_eq_checked htext hconfig, checked_eq_ok_iff, fault?_eq_none_iff_isSound]
    exact and_iff_left rfl

/-- White space around what is not blank, an endpoint without a host and the negative zero are sound.  What
is not a number is read from a file, but it is not loaded. -/
theorem loaded_configurations_safe_edges :
    let sound : Config := {
      analysis := { command := ["\u3000x".toList] }
      model := { endpoint := "\u00A0http://".toList, temperature := ⟨0x80000000⟩ } }
    let unsound : Config := { model := { temperature := .nan false } }
    let text : Text :=
      "analysis = [['\u3000x']]\n[model]\ntemperature = -0.0\nendpoint = '\u00A0http://'\n".toList
    let other : Text := "model.temperature = nan".toList
    let files : FileSystem :=
      { nodes := [(["a".toList], .file (Text.encode text)), (["b".toList], .file (Text.encode other))] }
    (files.readText "a".toList = .ok text ∧ read? text = some sound ∧ sound.IsSound ∧ sound.RunsSafely ∧
      load files "a".toList = .ok sound) ∧
    (files.readText "b".toList = .ok other ∧ read? other = some unsound ∧ ¬ unsound.IsSound ∧
      load files "b".toList ≠ .ok unsound) ∧
    files.contains "c".toList = false ∧ load files "c".toList = .ok {} := by
  intro sound unsound text other files
  obtain ⟨hsafe, -, -⟩ := loaded_configurations_safe files "a".toList
  obtain ⟨-, -, hrefused⟩ := loaded_configurations_safe files "b".toList
  obtain ⟨-, hmissing, -⟩ := loaded_configurations_safe files "c".toList
  have hload : load files "a".toList = .ok sound := by decide +kernel
  have hother : files.readText "b".toList = .ok other := by decide +kernel
  have hread : read? other = some unsound := by decide +kernel
  have hunsound : ¬ unsound.IsSound := by
    intro h
    have hfinite : unsound.model.temperature.isFinite = true := h.isFinite
    revert hfinite
    decide
  have hgone : files.contains "c".toList = false := by decide +kernel
  exact ⟨⟨by decide +kernel, by decide +kernel, (hsafe sound hload).1, (hsafe sound hload).2, hload⟩,
    ⟨hother, hread, hunsound, mt (hrefused other unsound hother hread).1 hunsound⟩,
    hgone, hmissing hgone⟩

end Config

end CodeRepair
