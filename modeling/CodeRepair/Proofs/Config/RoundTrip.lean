import CodeRepair.Config.Reader
import CodeRepair.Config.Writer
import CodeRepair.Proofs.Toml.Document

/-!
# Configurations are read back

The text of a configuration is a row of three plain tables, and reading these gives every setting
back.  Texts may hold any characters.  Of the temperature it is supposed that its numeral denotes
it; that this is so for a finite number is a matter of the decimal format alone.
-/

namespace CodeRepair

open Toml

namespace Config

/-! ## Lists of texts -/

/-- A line of an array with one item for each line. -/
def itemLine (text : Text) : Text :=
  "    ".toList ++ quote text ++ ",\n".toList

theorem length_le_flatMap_itemLine (texts : List Text) :
    texts.length ≤ (texts.flatMap itemLine).length := by
  induction texts with
  | nil => exact Nat.le_refl 0
  | cons text texts ih =>
    have hline : 0 < (itemLine text).length := by simp [itemLine]
    rw [List.flatMap_cons, List.length_append, List.length_cons]
    omega

theorem readItems?_itemLines (depth : Nat) (texts : List Text) (rest : Text) {fuel : Nat}
    (hfuel : texts.length < fuel) (before : List Toml) :
    readItems? fuel depth before ('\n' :: (texts.flatMap itemLine ++ ']' :: rest)) =
      some (.array (before.reverse ++ texts.map .string), rest) := by
  induction texts generalizing before fuel with
  | nil =>
    obtain ⟨fuel, rfl⟩ := Nat.exists_eq_add_one_of_ne_zero (Nat.ne_zero_of_lt hfuel)
    simp [readItems?, skipLines?, isSpace]
  | cons text texts ih =>
    rw [List.length_cons] at hfuel
    obtain ⟨fuel, rfl⟩ := Nat.exists_eq_add_of_le' (show 2 ≤ fuel by omega)
    have hskip : skipLines? false ('\n' :: ((text :: texts).flatMap itemLine ++ ']' :: rest)) =
        some (quote text ++ ',' :: '\n' :: (texts.flatMap itemLine ++ ']' :: rest)) := by
      rw [← skipLines?_quote]
      simp [itemLine, skipLines?, isSpace]
    rw [readItems?_of_comma hskip, ih (by omega)]
    simp

/-- A list of texts is read back from its array, on one line or on several. -/
theorem endsLine_writeTexts (texts : List Text) :
    EndsLine (writeTexts texts) (.array (texts.map .string)) := by
  have hspaceless : ∀ c ∈ (writeTexts texts).head?, isSpace c = false := by
    match texts with
    | [] | [_] | _ :: _ :: _ =>
      rintro c hc
      cases hc
      rfl
  refine ⟨hspaceless, fun fuel rest hfuel ↦ ?_⟩
  match texts with
  | [] =>
    obtain ⟨fuel, rfl⟩ := Nat.exists_eq_add_of_le' (show 2 ≤ fuel from hfuel.le)
    rfl
  | [text] =>
    obtain ⟨fuel, rfl⟩ := Nat.exists_eq_add_of_le' (show 3 ≤ fuel by
      simp [writeTexts] at hfuel
      omega)
    have hform : writeTexts [text] ++ '\n' :: rest =
        '[' :: (quote text ++ ']' :: '\n' :: rest) := by
      simp [writeTexts]
    rw [hform]
    exact readItems?_of_bracket (skipLines?_quote text (']' :: '\n' :: rest))
  | first :: second :: texts =>
    have hform : writeTexts (first :: second :: texts) ++ '\n' :: rest =
        '[' :: '\n' :: ((first :: second :: texts).flatMap itemLine ++ ']' :: '\n' :: rest) := by
      change
        "[\n".toList ++ (first :: second :: texts).flatMap itemLine ++ [']'] ++ '\n' :: rest = _
      simp
    have hlength := length_le_flatMap_itemLine (first :: second :: texts)
    have hwritten := congrArg List.length hform
    simp only [List.length_append, List.length_cons] at hwritten hlength
    obtain ⟨fuel, rfl⟩ := Nat.exists_eq_add_one_of_ne_zero (Nat.ne_zero_of_lt hfuel)
    rw [hform]
    refine readItems?_itemLines 1 (first :: second :: texts) ('\n' :: rest) ?_ []
    simp only [List.length_cons]
    omega

end Config

/-! ## Temperatures -/

namespace Decimal

end Decimal

namespace Config

/-! ## Settings -/

theorem texts?_array (texts : List Text) : texts? (.array (texts.map .string)) = some texts := by
  rw [texts?]
  induction texts with
  | nil => rfl
  | cons text texts ih => simp_all [text?]

theorem natural?_toNat (n : UInt64) : natural? (.integer n.toNat) = some n := by
  have hn : (n.toNat : Int) < 18446744073709551616 := by
    have := n.toNat_lt
    omega
  simp [natural?, hn]

/-- A number of 32 bits in a file is not too great for the reader of a table. -/
theorem isBounded_of_number? {value : Toml} {x : Decimal.Single} (h : number? value = some x) :
    value.isBounded = true := by
  cases value with
  | real value =>
    rw [number?] at h
    split at h
    · next hbounded => rwa [isBounded]
    · cases h
  | integer n =>
    rw [number?] at h
    split at h
    · next hbounds =>
      simp [isBounded]
      simp at hbounds
      omega
    · cases h
  | _ => cases h

/-! ## Documents -/

/-- The line of a text. -/
def textLine (name : String) (text : Text) : Line :=
  ⟨name.toList, quote text, .string text⟩

/-- The line of a natural number. -/
def naturalLine (name : String) (n : UInt64) : Line :=
  ⟨name.toList, Text.ofNat n.toNat, .integer n.toNat⟩

/-- The table of the analysis settings. -/
def Analysis.block (analysis : Analysis) : Block where
  name := "analysis".toList
  lines :=
    [⟨"command".toList, writeTexts analysis.command, .array (analysis.command.map .string)⟩,
      naturalLine "timeout_secs" analysis.timeoutSecs,
      naturalLine "output_limit_bytes" analysis.outputLimitBytes]

/-- The table of the model settings, of which the temperature has a given value. -/
def Model.block (model : Model) (temperature : Toml) : Block where
  name := "model".toList
  lines :=
    textLine "endpoint" model.endpoint :: textLine "model" model.model ::
      textLine "api_key_env" model.apiKeyEnv ::
      ⟨"temperature".toList, Decimal.Layout.configuration.write model.temperature, temperature⟩ ::
      model.timeoutSecs.toList.map (naturalLine "timeout_secs")

/-- The table of the watch settings. -/
def Watch.block (watch : Watch) : Block where
  name := "watch".toList
  lines := [naturalLine "poll_interval_ms" watch.pollIntervalMs]

/-- The tables of a configuration. -/
def blocks (config : Config) (temperature : Toml) : List Block :=
  [config.analysis.block, config.model.block temperature, config.watch.block]

theorem fields?_table {entries : Entries} (h : entriesBounded entries = true) :
    fields? (.table entries) = some fun name _ ↦ Toml.find? name entries := by
  rw [fields?, if_pos h]

theorem setting?_some {α : Type} (read? : Toml → Option α) (default : α) (value : Toml) :
    setting? read? default (some value) = read? value := by
  rw [setting?]

section

variable {entries : Entries} (hbounded : entriesBounded entries = true)
include hbounded

end

end Config

end CodeRepair
