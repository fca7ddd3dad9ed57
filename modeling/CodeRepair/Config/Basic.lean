import CodeRepair.Decimal.Single
import CodeRepair.Text.Blank

/-!
# Configurations

A configuration says how documents are analyzed, which model repairs them and how often files are
looked at.  A configuration is used only if it is valid; of several faults the first one in the
order of the settings is told.
-/

namespace CodeRepair

/-- How documents are analyzed. -/
structure Config.Analysis where
  /-- The words of the command, which the path of the document follows. -/
  command : List Text :=
    ["pylint".toList, "--output-format=text".toList, "--score=n".toList, "--from-stdin".toList]
  timeoutSecs : UInt64 := 120
  outputLimitBytes : UInt64 := 1000000
  deriving DecidableEq, Repr

/-- Which model is asked. -/
structure Config.Model where
  /-- The address to which the path of the service is added. -/
  endpoint : Text := "https://api.openai.com/v1".toList
  model : Text := "gpt-4o-mini".toList
  /-- The environment variable with the key for the service. -/
  apiKeyEnv : Text := "OPENAI_API_KEY".toList
  temperature : Decimal.Single := .ofNumeral ⟨false, 1, -1⟩
  /-- How long an answer may take; without it there is no limit. -/
  timeoutSecs : Option UInt64 := none
  deriving DecidableEq, Repr

/-- How files are watched. -/
structure Config.Watch where
  pollIntervalMs : UInt64 := 500
  deriving DecidableEq, Repr

/-- A configuration. -/
structure Config where
  analysis : Config.Analysis := {}
  model : Config.Model := {}
  watch : Config.Watch := {}
  deriving DecidableEq, Repr

namespace Config

/-- The name of a configuration file. -/
def fileName : Text := ".lintfix.toml".toList

/-- How long an analysis may take, in milliseconds. -/
def Analysis.timeoutMs (analysis : Analysis) : Nat :=
  analysis.timeoutSecs.toNat * 1000

/-- What is wrong with a configuration. -/
inductive Fault
  | command
  | analysisTimeout
  | outputLimit
  | endpoint
  | model
  | apiKeyEnv
  | temperature
  | modelTimeout
  | pollInterval
  deriving DecidableEq, Repr

/-- The wording of a fault. -/
def Fault.message : Fault → Text
  | command => "analysis.command must be a non-empty array".toList
  | analysisTimeout => "analysis.timeout_secs must be > 0".toList
  | outputLimit => "analysis.output_limit_bytes must be > 0".toList
  | endpoint => "model.endpoint must be an http(s) URL".toList
  | model => "model.model must not be empty".toList
  | apiKeyEnv => "model.api_key_env must not be empty".toList
  | temperature => "model.temperature must be within 0.0..=2.0".toList
  | modelTimeout => "model.timeout_secs must be > 0 when set".toList
  | pollInterval => "watch.poll_interval_ms must be > 0".toList

/-- Whether an endpoint, apart from the white space around it, begins as a web address. -/
def isWebAddress (endpoint : Text) : Bool :=
  Text.startsWith "http://".toList (Text.trim endpoint) ||
    Text.startsWith "https://".toList (Text.trim endpoint)

/-- Whether a configuration has a fault. -/
def Fault.isIn (config : Config) : Fault → Bool
  | command => Text.isAllBlank (config.analysis.command.head?.getD [])
  | analysisTimeout => config.analysis.timeoutSecs == 0
  | outputLimit => config.analysis.outputLimitBytes == 0
  | endpoint => !isWebAddress config.model.endpoint
  | model => Text.isAllBlank config.model.model
  | apiKeyEnv => Text.isAllBlank config.model.apiKeyEnv
  | temperature => !config.model.temperature.isWithin 2
  | modelTimeout => config.model.timeoutSecs == some 0
  | pollInterval => config.watch.pollIntervalMs == 0

/-- The faults in the order of the settings. -/
def Fault.all : List Fault :=
  [command, analysisTimeout, outputLimit, endpoint, model, apiKeyEnv, temperature, modelTimeout,
    pollInterval]

/-- The first fault of a configuration, if it has one. -/
def fault? (config : Config) : Option Fault :=
  Fault.all.find? (Fault.isIn config)

/-- Whether a configuration is valid. -/
def isValid (config : Config) : Bool :=
  config.fault?.isNone

end Config

end CodeRepair
