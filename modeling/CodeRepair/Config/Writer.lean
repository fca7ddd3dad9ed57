import CodeRepair.Config.Basic
import CodeRepair.Decimal.Layout
import CodeRepair.Toml.Quoted

/-!
# Writing configurations

Each part is a table with all its settings in order; only the time limit of the model is left out
when it is not set.  A command of several words has one line for each word.  Integers have at most
63 bits in a file, so a configuration with a greater one cannot be written.
-/

namespace CodeRepair.Config

/-- A line with a setting. -/
def line (name : String) (value : Text) : Text :=
  name.toList ++ " = ".toList ++ value ++ ['\n']

/-- An array of texts. -/
def writeTexts : List Text → Text
  | [] => "[]".toList
  | [text] => '[' :: Toml.quote text ++ [']']
  | texts =>
    "[\n".toList ++ texts.flatMap (fun text ↦ "    ".toList ++ Toml.quote text ++ ",\n".toList) ++
      [']']

/-- A natural number, if it fits a file. -/
def writeNatural? (n : UInt64) : Option Text :=
  if n.toNat < Nat.pow 2 63 then some (Text.ofNat n.toNat) else none

/-- The text of a configuration file. -/
def write? (config : Config) : Option Text := do
  let timeout ← writeNatural? config.analysis.timeoutSecs
  let limit ← writeNatural? config.analysis.outputLimitBytes
  let modelTimeout ← match config.model.timeoutSecs with
    | none => some []
    | some seconds => (writeNatural? seconds).map (line "timeout_secs")
  let interval ← writeNatural? config.watch.pollIntervalMs
  return "[analysis]\n".toList ++
    line "command" (writeTexts config.analysis.command) ++
    line "timeout_secs" timeout ++
    line "output_limit_bytes" limit ++
    "\n[model]\n".toList ++
    line "endpoint" (Toml.quote config.model.endpoint) ++
    line "model" (Toml.quote config.model.model) ++
    line "api_key_env" (Toml.quote config.model.apiKeyEnv) ++
    line "temperature" (Decimal.Layout.configuration.write config.model.temperature) ++
    modelTimeout ++
    "\n[watch]\n".toList ++
    line "poll_interval_ms" interval ++
    "\n".toList

end CodeRepair.Config
