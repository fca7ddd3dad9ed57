import CodeRepair.Proofs.Config.Stored
import CodeRepair.Proofs.Decimal.Exact
import CodeRepair.Proofs.Toml.Numeral
import Mathlib.Data.List.Dedup

/-!
# Files with some of the settings

A file that holds some settings of a valid configuration, in whatever order and notation, is loaded as the
default configuration with these settings in their places.  Whether a setting is valid depends on no other
setting, so every such mixture is valid.  Every choice of settings can be written, in any order: also a
temperature has a numeral that denotes it.
-/

namespace CodeRepair.Config

open Toml

/-- The settings of a configuration. -/
inductive Setting
  | command
  | analysisTimeout
  | outputLimit
  | endpoint
  | model
  | apiKeyEnv
  | temperature
  | modelTimeout
  | pollInterval
  deriving DecidableEq, Repr

/-- The parts of a configuration. -/
inductive Part
  | analysis
  | model
  | watch
  deriving DecidableEq, Repr

/-- The name of a part in a file. -/
def Part.name : Part → Text
  | analysis => "analysis".toList
  | model => "model".toList
  | watch => "watch".toList

namespace Setting

/-- The part that a setting belongs to. -/
def part : Setting → Part
  | command | analysisTimeout | outputLimit => .analysis
  | endpoint | model | apiKeyEnv | temperature | modelTimeout => .model
  | pollInterval => .watch

/-- The key of a setting in the table of its part. -/
def key : Setting → Text
  | command => "command".toList
  | analysisTimeout | modelTimeout => "timeout_secs".toList
  | outputLimit => "output_limit_bytes".toList
  | endpoint => "endpoint".toList
  | model => "model".toList
  | apiKeyEnv => "api_key_env".toList
  | temperature => "temperature".toList
  | pollInterval => "poll_interval_ms".toList

/-- Whether two configurations agree on a setting. -/
def Agrees (config other : Config) : Setting → Prop
  | command => config.analysis.command = other.analysis.command
  | analysisTimeout => config.analysis.timeoutSecs = other.analysis.timeoutSecs
  | outputLimit => config.analysis.outputLimitBytes = other.analysis.outputLimitBytes
  | endpoint => config.model.endpoint = other.model.endpoint
  | model => config.model.model = other.model.model
  | apiKeyEnv => config.model.apiKeyEnv = other.model.apiKeyEnv
  | temperature => config.model.temperature = other.model.temperature
  | modelTimeout => config.model.timeoutSecs = other.model.timeoutSecs
  | pollInterval => config.watch.pollIntervalMs = other.watch.pollIntervalMs

/-- Whether a value in a file is that of a setting.  Only the time limit of the model may have no value. -/
def Denotes (config : Config) (value : Toml) : Setting → Prop
  | command => value = .array (config.analysis.command.map .string)
  | analysisTimeout => value = .integer config.analysis.timeoutSecs.toNat
  | outputLimit => value = .integer config.analysis.outputLimitBytes.toNat
  | endpoint => value = .string config.model.endpoint
  | model => value = .string config.model.model
  | apiKeyEnv => value = .string config.model.apiKeyEnv
  | temperature => number? value = some config.model.temperature
  | modelTimeout => ∃ seconds, config.model.timeoutSecs = some seconds ∧ value = .integer seconds.toNat
  | pollInterval => value = .integer config.watch.pollIntervalMs.toNat

/-- Whether a setting has a value. -/
def isSet (config : Config) : Setting → Bool
  | modelTimeout => config.model.timeoutSecs.isSome
  | _ => true

end Setting

/-- The setting that a fault is about. -/
def Fault.setting : Fault → Setting
  | command => .command
  | analysisTimeout => .analysisTimeout
  | outputLimit => .outputLimit
  | endpoint => .endpoint
  | model => .model
  | apiKeyEnv => .apiKeyEnv
  | temperature => .temperature
  | modelTimeout => .modelTimeout
  | pollInterval => .pollInterval

/-- The value that a setting has in a configuration where only some settings are not the default. -/
def pick {α : Type} (chosen : List Setting) (setting : Setting) (given default : α) : α :=
  if setting ∈ chosen then given else default

/-- The default configuration with some settings of another one in their places. -/
def overlay (config : Config) (chosen : List Setting) : Config :=
  let default : Config := {}
  { analysis := {
      command := pick chosen .command config.analysis.command default.analysis.command
      timeoutSecs :=
        pick chosen .analysisTimeout config.analysis.timeoutSecs default.analysis.timeoutSecs
      outputLimitBytes :=
        pick chosen .outputLimit config.analysis.outputLimitBytes default.analysis.outputLimitBytes }
    model := {
      endpoint := pick chosen .endpoint config.model.endpoint default.model.endpoint
      model := pick chosen .model config.model.model default.model.model
      apiKeyEnv := pick chosen .apiKeyEnv config.model.apiKeyEnv default.model.apiKeyEnv
      temperature := pick chosen .temperature config.model.temperature default.model.temperature
      timeoutSecs := pick chosen .modelTimeout config.model.timeoutSecs default.model.timeoutSecs }
    watch := {
      pollIntervalMs :=
        pick chosen .pollInterval config.watch.pollIntervalMs default.watch.pollIntervalMs } }

variable {config other : Config} {chosen : List Setting} {setting : Setting} {entries : Entries}

theorem agrees_overlay_of_mem (h : setting ∈ chosen) : setting.Agrees (overlay config chosen) config := by
  cases setting <;> exact if_pos h

theorem agrees_overlay_of_not_mem (h : setting ∉ chosen) : setting.Agrees (overlay config chosen) {} := by
  cases setting <;> exact if_neg h

/-! ## Validity -/

/-- A fault depends on no setting but the one that it is about. -/
theorem Fault.isIn_congr {fault : Fault} (h : fault.setting.Agrees config other) :
    fault.isIn config = fault.isIn other := by
  cases fault <;>
  · change _ = _ at h
    simp only [isIn, h]

/-- A mixture of valid settings with the default is valid. -/
theorem fault?_overlay (h : config.fault? = none) (chosen : List Setting) :
    (overlay config chosen).fault? = none := by
  rw [fault?_eq_none_iff] at h ⊢
  intro fault
  by_cases hchosen : fault.setting ∈ chosen
  · rw [Fault.isIn_congr (agrees_overlay_of_mem hchosen), h]
  · rw [Fault.isIn_congr (agrees_overlay_of_not_mem hchosen), fault?_eq_none_iff.1 fault?_default]

/-! ## Documents -/

/-- A document holds some settings of a configuration, in the tables of their parts, and nothing else. -/
structure HoldsExactly (config : Config) (chosen : List Setting) (entries : Entries) : Prop where
  /-- There are only parts, and in them only chosen settings. -/
  only : ∀ entry ∈ entries, ∃ (part : Part) (inner : Entries), entry = (part.name, .table inner) ∧
    ∀ field ∈ inner, ∃ setting ∈ chosen, setting.part = part ∧ setting.key = field.1 ∧
      setting.Denotes config field.2
  /-- All of these are there that have a value. -/
  every : ∀ setting ∈ chosen, setting.isSet config = true →
    ∃ inner, find? setting.part.name entries = some (.table inner) ∧ (find? setting.key inner).isSome

/-- The table of a part in a document, empty if it is not there. -/
def Part.fields (entries : Entries) (part : Part) : Entries :=
  match find? part.name entries with
  | some (.table fields) => fields
  | _ => []

/-- The value of a setting in a document. -/
def Setting.lookup (entries : Entries) (setting : Setting) : Option Toml :=
  find? setting.key (setting.part.fields entries)

theorem Part.name_inj {part other : Part} (h : part.name = other.name) : part = other := by
  revert h
  cases part <;> cases other <;> decide

/-- The keys of a part differ. -/
theorem Setting.eq_of_key {setting other : Setting} (hpart : setting.part = other.part)
    (hkey : setting.key = other.key) : setting = other := by
  revert hpart hkey
  cases setting <;> cases other <;> decide

theorem Setting.isBounded_of_denotes {value : Toml} (h : setting.Denotes config value) :
    value.isBounded = true := by
  cases setting with
  | command => exact h ▸ areBounded_strings _
  | analysisTimeout | outputLimit | pollInterval => exact h ▸ isBounded_toNat _
  | endpoint | model | apiKeyEnv => exact h ▸ rfl
  | temperature => exact isBounded_of_number? h
  | modelTimeout =>
    obtain ⟨seconds, -, rfl⟩ := h
    exact isBounded_toNat seconds

namespace HoldsExactly

variable (h : HoldsExactly config chosen entries)
include h

/-- What stands in the table of a part is chosen and denotes a setting of the part. -/
theorem exists_setting (part : Part) {field : Text × Toml} (hfield : field ∈ part.fields entries) :
    ∃ setting ∈ chosen, setting.part = part ∧ setting.key = field.1 ∧ setting.Denotes config field.2 := by
  unfold Part.fields at hfield
  split at hfield
  · next inner hpart =>
    obtain ⟨other, inner', heq, hinner⟩ := h.only _ (mem_of_find? hpart)
    obtain ⟨hname, htable⟩ := Prod.mk.inj heq
    obtain rfl := Toml.table.inj htable
    obtain rfl := Part.name_inj hname
    exact hinner field hfield
  · cases hfield

theorem entriesBounded_fields (part : Part) : entriesBounded (part.fields entries) = true := by
  refine entriesBounded_of_forall fun field hfield ↦ ?_
  obtain ⟨setting, -, -, -, hdenotes⟩ := h.exists_setting part hfield
  exact Setting.isBounded_of_denotes hdenotes

/-- A part that is missing is read as one without settings. -/
theorem setting?_part {α : Type} (read? : Toml → Option α) {default : α} (part : Part)
    (hempty : read? (.table []) = some default) :
    setting? read? default (find? part.name entries) = read? (.table (part.fields entries)) := by
  cases hpart : find? part.name entries with
  | none => rw [Part.fields, hpart, hempty, setting?]
  | some value =>
    obtain ⟨other, inner, heq, -⟩ := h.only _ (mem_of_find? hpart)
    obtain ⟨-, rfl⟩ := Prod.mk.inj heq
    rw [setting?_some, Part.fields, hpart]

/-- What stands at a setting is chosen and denotes it. -/
theorem denotes_of_lookup {value : Toml} (hvalue : setting.lookup entries = some value) :
    setting ∈ chosen ∧ setting.Denotes config value := by
  obtain ⟨other, hother, hpart, hkey, hdenotes⟩ := h.exists_setting _ (mem_of_find? hvalue)
  obtain rfl := Setting.eq_of_key hpart hkey
  exact ⟨hother, hdenotes⟩

/-- Nothing stands at a chosen setting only if it has no value. -/
theorem isSet_of_lookup (hnone : setting.lookup entries = none) (hchosen : setting ∈ chosen) :
    setting.isSet config = false := by
  rw [Bool.eq_false_iff]
  intro hset
  obtain ⟨inner, hpart, hkey⟩ := h.every setting hchosen hset
  simp only [Setting.lookup, Part.fields, hpart] at hnone
  rw [hnone] at hkey
  cases hkey

/-- A setting is read as chosen, or it keeps its default. -/
theorem setting?_lookup (setting : Setting) {α : Type} {read? : Toml → Option α} {given default : α}
    (hread : ∀ value, setting.Denotes config value → read? value = some given)
    (hunset : setting.isSet config = false → given = default) :
    setting? read? default (find? setting.key (setting.part.fields entries)) =
      some (pick chosen setting given default) := by
  change setting? read? default (setting.lookup entries) = _
  cases hvalue : setting.lookup entries with
  | none =>
    by_cases hchosen : setting ∈ chosen
    · rw [pick, if_pos hchosen, hunset (h.isSet_of_lookup hvalue hchosen), setting?]
    · rw [pick, if_neg hchosen, setting?]
  | some value =>
    obtain ⟨hchosen, hdenotes⟩ := h.denotes_of_lookup hvalue
    rw [pick, if_pos hchosen, setting?_some, hread value hdenotes]

theorem analysis?_fields :
    analysis? (.table (Part.analysis.fields entries)) = some (overlay config chosen).analysis := by
  have hcommand : setting? texts? ({} : Analysis).command
      (find? "command".toList (Part.analysis.fields entries)) =
        some (overlay config chosen).analysis.command :=
    h.setting?_lookup .command (by rintro _ rfl; exact texts?_array _) nofun
  have htimeout : setting? natural? ({} : Analysis).timeoutSecs
      (find? "timeout_secs".toList (Part.analysis.fields entries)) =
        some (overlay config chosen).analysis.timeoutSecs :=
    h.setting?_lookup .analysisTimeout (by rintro _ rfl; exact natural?_toNat _) nofun
  have hlimit : setting? natural? ({} : Analysis).outputLimitBytes
      (find? "output_limit_bytes".toList (Part.analysis.fields entries)) =
        some (overlay config chosen).analysis.outputLimitBytes :=
    h.setting?_lookup .outputLimit (by rintro _ rfl; exact natural?_toNat _) nofun
  simp only [analysis?, Option.bind_eq_bind, Option.bind_eq_some_iff]
  exact ⟨_, fields?_table (h.entriesBounded_fields .analysis), _, hcommand, _, htimeout, _, hlimit, rfl⟩

theorem model?_fields :
    model? (.table (Part.model.fields entries)) = some (overlay config chosen).model := by
  have hendpoint : setting? text? ({} : Model).endpoint
      (find? "endpoint".toList (Part.model.fields entries)) =
        some (overlay config chosen).model.endpoint :=
    h.setting?_lookup .endpoint (by rintro _ rfl; rfl) nofun
  have hmodel : setting? text? ({} : Model).model (find? "model".toList (Part.model.fields entries)) =
      some (overlay config chosen).model.model :=
    h.setting?_lookup .model (by rintro _ rfl; rfl) nofun
  have hkey : setting? text? ({} : Model).apiKeyEnv
      (find? "api_key_env".toList (Part.model.fields entries)) =
        some (overlay config chosen).model.apiKeyEnv :=
    h.setting?_lookup .apiKeyEnv (by rintro _ rfl; rfl) nofun
  have htemperature : setting? number? ({} : Model).temperature
      (find? "temperature".toList (Part.model.fields entries)) =
        some (overlay config chosen).model.temperature :=
    h.setting?_lookup .temperature (fun _ hvalue ↦ hvalue) nofun
  have htimeout : setting? (fun value ↦ (natural? value).map some) ({} : Model).timeoutSecs
      (find? "timeout_secs".toList (Part.model.fields entries)) =
        some (overlay config chosen).model.timeoutSecs := by
    refine h.setting?_lookup .modelTimeout ?_ fun hunset ↦ ?_
    · rintro _ ⟨seconds, hseconds, rfl⟩
      rw [natural?_toNat, hseconds, Option.map_some]
    · exact Option.isNone_iff_eq_none.1 (Option.isSome_eq_false_iff.1 hunset)
  simp only [model?, Option.bind_eq_bind, Option.bind_eq_some_iff]
  exact ⟨_, fields?_table (h.entriesBounded_fields .model), _, hendpoint, _, hmodel, _, hkey, _, htemperature,
    _, htimeout, rfl⟩

theorem watch?_fields :
    watch? (.table (Part.watch.fields entries)) = some (overlay config chosen).watch := by
  have hinterval : setting? natural? ({} : Watch).pollIntervalMs
      (find? "poll_interval_ms".toList (Part.watch.fields entries)) =
        some (overlay config chosen).watch.pollIntervalMs :=
    h.setting?_lookup .pollInterval (by rintro _ rfl; exact natural?_toNat _) nofun
  simp only [watch?, Option.bind_eq_bind, Option.bind_eq_some_iff]
  exact ⟨_, fields?_table (h.entriesBounded_fields .watch), _, hinterval, rfl⟩

/-- A document with some settings is read as the default configuration with these in their places. -/
theorem ofEntries?_eq : ofEntries? entries = some (overlay config chosen) := by
  have hothers : entries.filter (fun entry ↦ !partNames.contains entry.1) = [] := by
    have hname (part : Part) : partNames.contains part.name = true := by cases part <;> rfl
    rw [List.filter_eq_nil_iff]
    intro entry hentry
    obtain ⟨part, inner, rfl, -⟩ := h.only entry hentry
    rw [hname part]
    exact nofun
  have hanalysis : setting? analysis? {} (find? "analysis".toList entries) =
      some (overlay config chosen).analysis :=
    (h.setting?_part analysis? .analysis rfl).trans h.analysis?_fields
  have hmodel : setting? model? {} (find? "model".toList entries) = some (overlay config chosen).model :=
    (h.setting?_part model? .model rfl).trans h.model?_fields
  have hwatch : setting? watch? {} (find? "watch".toList entries) = some (overlay config chosen).watch :=
    (h.setting?_part watch? .watch rfl).trans h.watch?_fields
  simp only [ofEntries?, hothers, hanalysis, hmodel, hwatch, Option.bind_eq_bind, Option.bind_some]
  rfl

end HoldsExactly

/-! ## Written files -/

/-- How a text is written, and the value that it has in a file. -/
def textForm (text : Text) : Text × Toml :=
  (quote text, .string text)

/-- How a natural number is written, and the value that it has in a file. -/
def naturalForm (n : UInt64) : Text × Toml :=
  (Text.ofNat n.toNat, .integer n.toNat)

/-- How a setting is written, and the value that it has in a file.  The numeral of the temperature denotes
it exactly. -/
def Setting.form? (config : Config) : Setting → Option (Text × Toml)
  | command => some (writeTexts config.analysis.command, .array (config.analysis.command.map .string))
  | analysisTimeout => some (naturalForm config.analysis.timeoutSecs)
  | outputLimit => some (naturalForm config.analysis.outputLimitBytes)
  | endpoint => some (textForm config.model.endpoint)
  | model => some (textForm config.model.model)
  | apiKeyEnv => some (textForm config.model.apiKeyEnv)
  | temperature =>
    some (writeNumeral config.model.temperature.numeral, .real (.numeral config.model.temperature.numeral))
  | modelTimeout => config.model.timeoutSecs.map naturalForm
  | pollInterval => some (naturalForm config.watch.pollIntervalMs)

/-- The line of a setting, if it has a value. -/
def Setting.line? (config : Config) (setting : Setting) : Option Line :=
  (setting.form? config).map fun form ↦ ⟨setting.key, form.1, form.2⟩

/-- The parts of a file in their order, each with its settings in theirs. -/
abbrev Arrangement := List (Part × List Setting)

/-- The settings of an arrangement. -/
def Arrangement.settings (arrangement : Arrangement) : List Setting :=
  arrangement.flatMap Prod.snd

/-- Whether each part has at most one table and each setting at most one line, in the table of its part. -/
structure Arrangement.IsProper (arrangement : Arrangement) : Prop where
  parts : (arrangement.map Prod.fst).Nodup
  settings : ∀ piece ∈ arrangement, piece.2.Nodup ∧ ∀ setting ∈ piece.2, setting.part = piece.1

instance (arrangement : Arrangement) : Decidable arrangement.IsProper :=
  decidable_of_iff ((arrangement.map Prod.fst).Nodup ∧ ∀ piece ∈ arrangement,
      piece.2.Nodup ∧ ∀ setting ∈ piece.2, setting.part = piece.1)
    ⟨fun h ↦ ⟨h.1, h.2⟩, fun h ↦ ⟨h.1, h.2⟩⟩

/-- The tables of an arrangement. -/
def Arrangement.blocks (config : Config) (arrangement : Arrangement) : List Block :=
  arrangement.map fun piece ↦ ⟨piece.1.name, piece.2.filterMap (Setting.line? config)⟩

/-- The text of a file with some settings in a given order. -/
def Arrangement.write (config : Config) (arrangement : Arrangement) : Text :=
  (arrangement.blocks config).flatMap Block.write

variable {arrangement : Arrangement} {line : Line}

theorem Part.isBareKey_name (part : Part) : IsBareKey part.name := by
  cases part <;> decide

theorem Setting.isBareKey_key (setting : Setting) : IsBareKey setting.key := by
  cases setting <;> decide

theorem Setting.endsLine_of_form? {form : Text × Toml} (h : setting.form? config = some form) :
    EndsLine form.1 form.2 := by
  cases setting with
  | command => exact Option.some.inj h ▸ endsLine_writeTexts _
  | analysisTimeout | outputLimit | pollInterval => exact Option.some.inj h ▸ endsLine_ofNat _
  | endpoint | model | apiKeyEnv => exact Option.some.inj h ▸ endsLine_quote _
  | temperature => exact Option.some.inj h ▸ endsLine_writeNumeral _
  | modelTimeout =>
    obtain ⟨seconds, -, rfl⟩ := Option.map_eq_some_iff.1 h
    exact endsLine_ofNat _

/-- A numeral that is not too great is read as the number of 32 bits that it gives. -/
theorem number?_numeral {x : Decimal.Single} (h : x.isFinite = true) :
    number? (.real (.numeral x.numeral)) = some x := by
  obtain ⟨held, shifted, hdouble, -⟩ := Decimal.Single.exists_double_ofNumeral h
  have hbounded : (Toml.Real.numeral x.numeral).isBounded = true := by
    rw [Toml.Real.isBounded, hdouble]
    rfl
  rw [number?, if_pos hbounded, Toml.Real.single, Decimal.Single.ofNumeral_numeral h]

theorem Setting.denotes_of_form? {form : Text × Toml} (hfinite : config.model.temperature.isFinite = true)
    (h : setting.form? config = some form) : setting.Denotes config form.2 := by
  cases setting with
  | command | analysisTimeout | outputLimit | endpoint | model | apiKeyEnv | pollInterval =>
    exact congrArg Prod.snd (Option.some.inj h).symm
  | temperature => exact Option.some.inj h ▸ number?_numeral hfinite
  | modelTimeout =>
    obtain ⟨seconds, hseconds, rfl⟩ := Option.map_eq_some_iff.1 h
    exact ⟨seconds, hseconds, rfl⟩

theorem Setting.exists_form? (h : setting.isSet config = true) : ∃ form, setting.form? config = some form := by
  cases setting with
  | modelTimeout =>
    obtain ⟨seconds, hseconds⟩ := Option.isSome_iff_exists.1 h
    exact ⟨_, congrArg (Option.map naturalForm) hseconds⟩
  | _ => exact ⟨_, rfl⟩

theorem Setting.line?_eq_some_iff : setting.line? config = some line ↔
    ∃ form, setting.form? config = some form ∧ ⟨setting.key, form.1, form.2⟩ = line :=
  Option.map_eq_some_iff

namespace Arrangement

/-- Every choice of settings can be arranged. -/
theorem exists_isProper (chosen : List Setting) :
    ∃ arrangement : Arrangement, arrangement.IsProper ∧
      ∀ setting, setting ∈ arrangement.settings ↔ setting ∈ chosen := by
  let lines (part : Part) : List Setting := (chosen.filter fun setting ↦ setting.part = part).dedup
  have hlines (part : Part) (setting : Setting) :
      setting ∈ lines part ↔ setting ∈ chosen ∧ setting.part = part := by
    simp only [lines, List.mem_dedup, List.mem_filter, decide_eq_true_iff]
  let parts : List Part := [.analysis, .model, .watch]
  have hparts (part : Part) : part ∈ parts := by cases part <;> decide
  have hdistinct : parts.Nodup := by decide
  refine ⟨parts.map fun part ↦ (part, lines part), ⟨hdistinct, fun piece hpiece ↦ ?_⟩, fun setting ↦ ?_⟩
  · obtain ⟨part, -, rfl⟩ := List.mem_map.1 hpiece
    exact ⟨List.nodup_dedup _, fun setting hsetting ↦ ((hlines part setting).1 hsetting).2⟩
  · rw [settings, List.flatMap_map, List.mem_flatMap]
    constructor
    · rintro ⟨part, -, hsetting⟩
      exact ((hlines part setting).1 hsetting).1
    · intro hchosen
      exact ⟨setting.part, hparts _, (hlines _ setting).2 ⟨hchosen, rfl⟩⟩

variable (h : arrangement.IsProper)
include h

theorem nodup_names : ((arrangement.blocks config).map Block.name).Nodup := by
  have hnames : (arrangement.blocks config).map Block.name = (arrangement.map Prod.fst).map Part.name := by
    rw [blocks, List.map_map, List.map_map]
    rfl
  rw [hnames]
  exact h.parts.map fun _ _ ↦ Part.name_inj

/-- The keys of a table differ, since its settings do and are all of one part. -/
theorem nodup_keys {piece : Part × List Setting} (hpiece : piece ∈ arrangement) :
    ((piece.2.filterMap (Setting.line? config)).map Line.key).Nodup := by
  obtain ⟨hnodup, hpart⟩ := h.settings piece hpiece
  rw [List.Nodup, List.pairwise_map, List.pairwise_filterMap]
  refine hnodup.imp_of_mem fun {setting other} hsetting hother hne line hline line' hline' hkey ↦ ?_
  obtain ⟨form, -, rfl⟩ := Setting.line?_eq_some_iff.1 hline
  obtain ⟨form', -, rfl⟩ := Setting.line?_eq_some_iff.1 hline'
  exact hne (Setting.eq_of_key ((hpart setting hsetting).trans (hpart other hother).symm) hkey)

theorem read?_write :
    Toml.read? (arrangement.write config) = some ((arrangement.blocks config).map Block.entry) := by
  refine read?_blocks (fun block hblock ↦ ?_) (nodup_names h)
  obtain ⟨piece, hpiece, rfl⟩ := List.mem_map.1 hblock
  refine ⟨?_, fun line hline ↦ ?_, nodup_keys h hpiece⟩
  · exact piece.1.isBareKey_name
  · obtain ⟨setting, -, hline⟩ := List.mem_filterMap.1 hline
    obtain ⟨form, hform, rfl⟩ := Setting.line?_eq_some_iff.1 hline
    exact ⟨setting.isBareKey_key, Setting.endsLine_of_form? hform⟩

theorem holdsExactly (hfinite : config.model.temperature.isFinite = true) :
    HoldsExactly config arrangement.settings ((arrangement.blocks config).map Block.entry) where
  only entry hentry := by
    obtain ⟨block, hblock, rfl⟩ := List.mem_map.1 hentry
    obtain ⟨piece, hpiece, rfl⟩ := List.mem_map.1 hblock
    refine ⟨piece.1, _, rfl, fun field hfield ↦ ?_⟩
    obtain ⟨line, hline, rfl⟩ := List.mem_map.1 hfield
    obtain ⟨setting, hsetting, hline⟩ := List.mem_filterMap.1 hline
    obtain ⟨form, hform, rfl⟩ := Setting.line?_eq_some_iff.1 hline
    have hdenotes := Setting.denotes_of_form? hfinite hform
    exact ⟨setting, List.mem_flatMap.2 ⟨piece, hpiece, hsetting⟩, (h.settings piece hpiece).2 setting hsetting,
      rfl, hdenotes⟩
  every setting hsetting hset := by
    obtain ⟨piece, hpiece, hsetting⟩ := List.mem_flatMap.1 hsetting
    obtain ⟨form, hform⟩ := Setting.exists_form? hset
    have hline : (⟨setting.key, form.1, form.2⟩ : Line) ∈ piece.2.filterMap (Setting.line? config) :=
      List.mem_filterMap.2 ⟨setting, hsetting, Setting.line?_eq_some_iff.2 ⟨form, hform, rfl⟩⟩
    have hfield : (setting.key, form.2) ∈ (piece.2.filterMap (Setting.line? config)).map Line.entry :=
      List.mem_map.2 ⟨_, hline, rfl⟩
    have hnames : (((arrangement.blocks config).map Block.entry).map Prod.fst).Nodup := by
      rw [List.map_map]
      exact nodup_names h
    refine ⟨_, find?_of_mem hnames ?_, isSome_find? hfield⟩
    rw [(h.settings piece hpiece).2 setting hsetting]
    exact List.mem_map_of_mem (List.mem_map_of_mem hpiece)

end Arrangement

/-! ## Loading -/

/-- How files with some of the settings of a configuration are loaded. -/
structure OverlaysDefault (config : Config) : Prop where
  /-- A chosen setting is that of the configuration, -/
  kept : ∀ chosen : List Setting, ∀ setting ∈ chosen, setting.Agrees (overlay config chosen) config
  /-- and any other has its default. -/
  left_out : ∀ chosen : List Setting, ∀ setting ∉ chosen, setting.Agrees (overlay config chosen) {}
  /-- No choice of settings makes the mixture invalid. -/
  valid : ∀ chosen, (overlay config chosen).fault? = none
  /-- A file that holds the chosen settings and nothing else is loaded as the mixture, whatever its text. -/
  loaded : ∀ chosen (files : FileSystem) (path : Path) text entries, files.readText path = .ok text →
    Toml.read? text = some entries → HoldsExactly config chosen entries →
    load files path = .ok (overlay config chosen)
  /-- Every choice of settings can be arranged, -/
  arranged : ∀ chosen : List Setting, ∃ arrangement : Arrangement, arrangement.IsProper ∧
    ∀ setting, setting ∈ arrangement.settings ↔ setting ∈ chosen
  /-- and a file with a line for each chosen setting, in any order of the parts and the settings, is loaded
  as the mixture too. -/
  written : ∀ (arrangement : Arrangement), arrangement.IsProper → ∀ (files : FileSystem) (path : Path),
    files.readText path = .ok (arrangement.write config) →
      load files path = .ok (overlay config arrangement.settings)

/-- Files with some settings of a valid configuration are loaded as the default configuration with these
settings in their places. -/
theorem partial_files_overlay (h : config.fault? = none) : OverlaysDefault config where
  kept chosen setting := agrees_overlay_of_mem
  left_out chosen setting := agrees_overlay_of_not_mem
  valid := fault?_overlay h
  loaded chosen files path text entries htext hentries hholds :=
    load_of_readText (fault?_overlay h chosen) htext (by
      rw [read?, hentries, Option.bind_some, hholds.ofEntries?_eq])
  arranged := Arrangement.exists_isProper
  written arrangement hproper files path htext :=
    load_of_readText (fault?_overlay h _) htext (by
      rw [read?, Arrangement.read?_write hproper, Option.bind_some,
        (Arrangement.holdsExactly hproper (isFinite_of_fault? h)).ofEntries?_eq])

theorem partial_files_overlay_scrambled :
    let config : Config := {
      analysis := ⟨["ruff".toList, "'\n\"".toList], 7, 18446744073709551615⟩
      model := { model := "m".toList, temperature := ⟨0x15AE43FD⟩, timeoutSecs := some 1 }
      watch := ⟨250⟩ }
    let arrangement : Arrangement :=
      [(.watch, []), (.model, [.temperature, .modelTimeout]), (.analysis, [.outputLimit, .command])]
    let files : FileSystem :=
      { nodes := [(["c.toml".toList], .file (Text.encode (arrangement.write config)))] }
    config.fault? = none ∧ OverlaysDefault config ∧ arrangement.IsProper ∧
      load files "c.toml".toList = .ok {
        analysis := { command := config.analysis.command, outputLimitBytes := 18446744073709551615 }
        model := { temperature := ⟨0x15AE43FD⟩, timeoutSecs := some 1 } } := by
  intro config arrangement files
  have hvalid : config.fault? = none := by decide +kernel
  have hproper : arrangement.IsProper := by decide
  have hoverlays := partial_files_overlay hvalid
  have htext : files.readText "c.toml".toList = .ok (arrangement.write config) := by decide +kernel
  exact ⟨hvalid, hoverlays, hproper, hoverlays.written arrangement hproper files _ htext⟩

end CodeRepair.Config
